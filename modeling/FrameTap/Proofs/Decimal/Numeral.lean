import FrameTap.Decimal.Numeral

/-!
# Numerals as they are written

A numeral is the numeral of its tenth followed by one digit.  Every induction on numerals
goes by that step, from the last digit to the first.
-/

namespace FrameTap.Numeral

theorem write_of_lt {n : Nat} (h : n < 10) : write n = [Nat.digitChar n] :=
  Nat.toDigits_of_lt_base h

theorem write_of_le {n : Nat} (h : 10 ≤ n) : write n = write (n / 10) ++ [Nat.digitChar (n % 10)] :=
  Nat.toDigits_of_base_le (by decide) h

theorem write_ne_nil (n : Nat) : write n ≠ [] := Nat.toDigits_ne_nil

/-! ## Digits -/

theorem mem_toDigits {base n : Nat} {c : Char} (hbase : 1 < base) (h : c ∈ Nat.toDigits base n) :
    ∃ d < base, c = Nat.digitChar d := by
  induction n using Nat.strongRecOn with
  | ind n ih =>
      by_cases hn : n < base
      · rw [Nat.toDigits_of_lt_base hn, List.mem_singleton] at h
        exact ⟨n, hn, h⟩
      · have hle : base ≤ n := Nat.le_of_not_lt hn
        rw [Nat.toDigits_of_base_le hbase hle, List.mem_append, List.mem_singleton] at h
        rcases h with h | h
        · exact ih (n / base) (Nat.div_lt_self (by omega) hbase) h
        · exact ⟨n % base, Nat.mod_lt n (by omega), h⟩

theorem mem_write {n : Nat} {c : Char} (h : c ∈ write n) : ∃ d < 10, c = Nat.digitChar d :=
  mem_toDigits (by decide) h

/-- Only zero is written with a zero in front. -/
theorem head?_write {n : Nat} (h : n ≠ 0) :
    ∃ d, d ≠ 0 ∧ d < 10 ∧ (write n).head? = some (Nat.digitChar d) := by
  induction n using Nat.strongRecOn with
  | ind n ih =>
      by_cases hn : n < 10
      · exact ⟨n, h, hn, by rw [write_of_lt hn, List.head?_cons]⟩
      · obtain ⟨d, hd, hlt, hhead⟩ := ih (n / 10) (by omega) (by omega)
        refine ⟨d, hd, hlt, ?_⟩
        rw [write_of_le (by omega), List.head?_append, hhead, Option.some_or]

end FrameTap.Numeral
