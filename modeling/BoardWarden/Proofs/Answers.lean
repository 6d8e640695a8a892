set_option autoImplicit false

namespace BoardWarden

variable {α β ε : Type}

theorem map_ok {x : Except ε α} {f : α → β} {y : β} (h : x.map f = .ok y) :
    ∃ a, x = .ok a ∧ f a = y := by
  cases x with
  | error _ => cases h
  | ok a =>
    cases h
    exact ⟨a, rfl, rfl⟩

theorem bind_ok {x : Except ε α} {f : α → Except ε β} {y : β}
    (h : x >>= f = .ok y) : ∃ a, x = .ok a ∧ f a = .ok y := by
  cases x with
  | error _ => cases h
  | ok a => exact ⟨a, rfl, h⟩

instance decidableSome {x : Option α} {P : α → Prop} [DecidablePred P] :
    Decidable (∃ a, x = some a ∧ P a) :=
  match x with
  | none => isFalse fun ⟨_, same, _⟩ => nomatch same
  | some a =>
    decidable_of_iff (P a) ⟨fun h => ⟨a, rfl, h⟩, fun ⟨_, same, h⟩ => Option.some.inj same ▸ h⟩

instance decidableOk {x : Except ε α} {P : α → Prop} [DecidablePred P] :
    Decidable (∃ a, x = .ok a ∧ P a) :=
  match x with
  | .error _ => isFalse fun ⟨_, same, _⟩ => nomatch same
  | .ok a =>
    decidable_of_iff (P a) ⟨fun h => ⟨a, rfl, h⟩, fun ⟨_, same, h⟩ => Except.ok.inj same ▸ h⟩

end BoardWarden
