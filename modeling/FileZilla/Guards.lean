import Mathlib.Logic.Basic

namespace FileZilla

universe u

variable {α : Type u} {guard : Prop} [Decidable guard] {result : Option α} {value given : α}

theorem of_guard (passed : (if guard then result else none) = some value) :
    guard ∧ result = some value := by
  split at passed
  case isTrue holds => exact ⟨holds, passed⟩
  case isFalse => cases passed

theorem of_refusal (passed : (if guard then none else result) = some value) :
    ¬ guard ∧ result = some value := by
  split at passed
  case isTrue => cases passed
  case isFalse fails => exact ⟨fails, passed⟩

theorem some_of_guard (passed : (if guard then some given else none) = some value) :
    guard ∧ given = value := by
  obtain ⟨holds, same⟩ := of_guard passed
  exact ⟨holds, Option.some.inj same⟩

theorem some_of_refusal (passed : (if guard then none else some given) = some value) :
    ¬ guard ∧ given = value := by
  obtain ⟨fails, same⟩ := of_refusal passed
  exact ⟨fails, Option.some.inj same⟩

end FileZilla
