import Mathlib.Data.List.Basic

set_option autoImplicit false

namespace ChainExplorer.Number

-- The first digit is that of the number divided by ten, as long as there is more than one.
theorem digits_leading (number : Nat) (leads : (Nat.toDigits 10 number).head? = some '0') :
    Nat.toDigits 10 number = ['0'] := by
  induction number using Nat.strongRecOn with
  | ind number ih =>
      rw [Nat.toDigits_eq_if (by decide)] at leads ⊢
      by_cases small : number < 10
      · rw [if_pos small] at leads ⊢
        exact congrArg (fun c => [c]) (Option.some.inj leads)
      · rw [if_neg small, List.head?_append_of_ne_nil _ Nat.toDigits_ne_nil] at leads
        have front := ih (number / 10) (by omega) leads
        have zero : number / 10 = 0 := by
          rw [← Nat.ofDigitChars_toDigits (b := 10) (n := number / 10) (by decide) (by decide), front]
          rfl
        omega

end ChainExplorer.Number
