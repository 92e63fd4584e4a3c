/-
A numeral reads back.

Digits are read from the left, so what a numeral is worth grows with each digit.  A numeral of a
number therefore never leaves a range that the number lies in, and is accepted by any reader
whose bound is not below it (`readNat_eq_ok_iff`); among them is the one that is written
(`readNat_natText`).  A signed numeral has a minus sign before its digits or is one of a natural
number, and it is accepted if a signed word has its value (`readInt64_eq_ok_iff`).
-/
import RanSlicing.Number.Integer
import RanSlicing.Proofs.Except
import RanSlicing.Proofs.Text.Lines

namespace RanSlicing.Number

theorem digit?_digitChar {d : Nat} (h : d < 10) : digit? (Nat.digitChar d) = some d := by
  have hall : ∀ d < 10, digit? (Nat.digitChar d) = some d := by decide
  exact hall d h

theorem readDigits_append (max : Nat) (overflow : IntegerError) :
    ∀ (front back : List Char) (value : Nat),
      readDigits max overflow value (front ++ back)
        = readDigits max overflow value front >>= fun v => readDigits max overflow v back := by
  intro front back
  induction front with
  | nil => intro value; rfl
  | cons c rest ih =>
      intro value
      simp only [List.cons_append, readDigits]
      split
      · rfl
      · split
        · exact ih _
        · rfl

theorem readDigits_toDigits {max : Nat} (overflow : IntegerError) {n : Nat} (h : n ≤ max) :
    readDigits max overflow 0 (Nat.toDigits 10 n) = .ok n := by
  induction n using Nat.strongRecOn with
  | ind n ih =>
      by_cases hsmall : n < 10
      · rw [Nat.toDigits_of_lt_base hsmall, readDigits, digit?_digitChar hsmall]
        simp [h, readDigits]
      · have hfront : readDigits max overflow 0 (Nat.toDigits 10 (n / 10)) = .ok (n / 10) :=
          ih _ (by omega) (by omega)
        have hlast : n / 10 * 10 + n % 10 = n := by omega
        rw [Nat.toDigits_of_base_le (by decide) (by omega), readDigits_append, hfront]
        simp only [bind, Except.bind, readDigits, digit?_digitChar (Nat.mod_lt n (by decide)),
          hlast, if_pos h]

/-! ### What is read as a number -/

theorem digit?_eq_some_iff {c : Char} {d : Nat} :
    digit? c = some d ↔ c.isDigit = true ∧ c.toNat - '0'.toNat = d := by
  have hdigit : c.isDigit = true ↔ '0' ≤ c ∧ c ≤ '9' := by
    rw [Char.isDigit, Bool.and_eq_true, decide_eq_true_eq, decide_eq_true_eq]
    rfl
  rw [digit?, hdigit]
  split
  · rename_i hc
    simp [hc]
  · rename_i hc
    simp [hc]

/-- Further digits make no value smaller. -/
theorem le_ofDigitChars (cs : List Char) (value : Nat) :
    value ≤ Nat.ofDigitChars 10 cs value := by
  induction cs generalizing value with
  | nil => exact Nat.le_refl value
  | cons c rest ih =>
      rw [Nat.ofDigitChars_cons]
      exact Nat.le_trans (by omega) (ih _)

/-- Digits are read if what they are worth is in range; on the way there no value exceeds it. -/
theorem readDigits_eq_ok_iff {max n : Nat} {overflow : IntegerError} {cs : List Char} :
    ∀ {value : Nat}, value ≤ max →
      (readDigits max overflow value cs = .ok n ↔
        (∀ c ∈ cs, c.isDigit = true) ∧ Nat.ofDigitChars 10 cs value = n ∧ n ≤ max) := by
  induction cs with
  | nil =>
      intro value hvalue
      rw [readDigits, Nat.ofDigitChars_nil]
      constructor
      · intro h
        obtain rfl := Except.ok.inj h
        exact ⟨by simp, rfl, hvalue⟩
      · rintro ⟨-, rfl, -⟩
        rfl
  | cons c rest ih =>
      intro value hvalue
      rw [readDigits, Nat.ofDigitChars_cons, List.forall_mem_cons]
      cases hc : digit? c with
      | none =>
          have hnot : c.isDigit ≠ true := by
            intro hdigit
            rw [digit?_eq_some_iff.2 ⟨hdigit, rfl⟩] at hc
            simp at hc
          simp [hnot]
      | some d =>
          obtain ⟨hdigit, hd⟩ := digit?_eq_some_iff.1 hc
          simp only [hdigit, hd, true_and, Nat.mul_comm 10 value]
          split
          · rename_i hle
            exact ih hle
          · rename_i hgt
            refine iff_of_false (by simp) ?_
            rintro ⟨-, hn, hmax⟩
            have := le_ofDigitChars rest (value * 10 + d)
            omega

/-- Digits, at least one, that are worth `n`. -/
structure Digits (cs : List Char) (n : Nat) : Prop where
  notEmpty : cs ≠ []
  digits : ∀ c ∈ cs, c.isDigit = true
  value : Nat.ofDigitChars 10 cs 0 = n

/-- The text is a numeral of `n`: its digits, behind a plus sign if one likes. -/
def IsNumeral (cs : List Char) (n : Nat) : Prop :=
  Digits cs n ∨ ∃ digits, cs = '+' :: digits ∧ Digits digits n

theorem not_digits_plus {rest : List Char} {n : Nat} : ¬Digits ('+' :: rest) n :=
  fun h => absurd (h.digits '+' List.mem_cons_self) (by decide)

theorem isNumeral_plus_iff {digits : List Char} {n : Nat} :
    IsNumeral ('+' :: digits) n ↔ Digits digits n := by
  constructor
  · rintro (h | ⟨digits', heq, h⟩)
    · exact absurd h not_digits_plus
    · rwa [(List.cons.inj heq).2]
  · exact fun h => .inr ⟨digits, rfl, h⟩

theorem isNumeral_iff_digits {cs : List Char} (h : ∀ digits, cs ≠ '+' :: digits) {n : Nat} :
    IsNumeral cs n ↔ Digits cs n :=
  or_iff_left fun ⟨digits, heq, _⟩ => h digits heq

theorem not_digits_nil {n : Nat} : ¬Digits [] n := fun h => h.notEmpty rfl

theorem readDigits_zero_eq_ok_iff {max n : Nat} {overflow : IntegerError} {cs : List Char}
    (h : cs ≠ []) : readDigits max overflow 0 cs = .ok n ↔ Digits cs n ∧ n ≤ max := by
  rw [readDigits_eq_ok_iff (Nat.zero_le max)]
  exact ⟨fun ⟨hdigits, hvalue, hmax⟩ => ⟨⟨h, hdigits, hvalue⟩, hmax⟩,
    fun ⟨⟨_, hdigits, hvalue⟩, hmax⟩ => ⟨hdigits, hvalue, hmax⟩⟩

/-- **The numerals in range are what is read.** -/
theorem readNat_eq_ok_iff {max n : Nat} {cs : List Char} :
    readNat max cs = .ok n ↔ IsNumeral cs n ∧ n ≤ max := by
  unfold readNat
  split
  · rw [isNumeral_iff_digits (by simp)]
    exact iff_of_false (by simp) fun h => not_digits_nil h.1
  · rw [isNumeral_plus_iff]
    exact iff_of_false (by simp) fun h => not_digits_nil h.1
  · rename_i digits hne
    rw [isNumeral_plus_iff]
    exact readDigits_zero_eq_ok_iff hne
  · rename_i hne _ hplus
    rw [isNumeral_iff_digits hplus]
    exact readDigits_zero_eq_ok_iff hne

theorem le_of_readNat {max n : Nat} {cs : List Char} (h : readNat max cs = .ok n) : n ≤ max :=
  (readNat_eq_ok_iff.1 h).2

theorem isDigit_of_mem_natText {n : Nat} {c : Char} (h : c ∈ (natText n).toList) :
    c.isDigit = true := by
  rw [natText, String.toList_ofList] at h
  exact Nat.isDigit_of_mem_toDigits (by decide) (by decide) h

theorem natText_ne_nil (n : Nat) : (natText n).toList ≠ [] := by
  rw [natText, String.toList_ofList, Nat.toDigits_eq_if (by decide)]
  split <;> simp

/-- **The numeral of a number is read as that number**, wherever it is in range. -/
theorem readNat_natText {max n : Nat} (h : n ≤ max) :
    readNat max (natText n).toList = .ok n := by
  have hplus : '+' ∉ (natText n).toList := by
    intro hmem
    exact absurd (isDigit_of_mem_natText hmem) (by decide)
  have hdigits : readDigits max .tooLarge 0 (natText n).toList = .ok n := by
    rw [natText, String.toList_ofList]
    exact readDigits_toDigits .tooLarge h
  unfold readNat
  split
  · rename_i hnil
    exact absurd hnil (natText_ne_nil n)
  · rename_i hsingle
    exact absurd (by simp [hsingle]) hplus
  · rename_i hcons
    exact absurd (by simp [hcons]) hplus
  · exact hdigits

/-- A numeral has no blanks around it. -/
theorem trim_natText (n : Nat) : Text.trim (natText n).toList = (natText n).toList :=
  Text.trim_of_forall_not_blank fun _ hc => Text.not_isBlank_of_isDigit (isDigit_of_mem_natText hc)

theorem natText_injective {m n : Nat} (h : natText m = natText n) : m = n := by
  have hm := readNat_natText (Nat.le_max_left m n)
  rw [h, readNat_natText (Nat.le_max_right m n)] at hm
  exact (Except.ok.inj hm).symm

theorem digits_natText (n : Nat) : Digits (natText n).toList n := by
  have hread := (readNat_eq_ok_iff.1 (readNat_natText (Nat.le_refl n))).1
  refine (isNumeral_iff_digits fun digits heq => ?_).1 hread
  have hplus : '+' ∈ (natText n).toList := by
    rw [heq]
    exact List.mem_cons_self
  exact absurd (isDigit_of_mem_natText hplus) (by decide)

/-! ### Signed numerals -/

/-- The integers that a signed word denotes. -/
structure IsWord (i : Int) : Prop where
  ge : -9223372036854775808 ≤ i
  lt : i < 9223372036854775808

/-- The text is a numeral of `i`: one of a natural number, or digits behind a minus sign. -/
def IsSigned (cs : List Char) (i : Int) : Prop :=
  (∃ n, IsNumeral cs n ∧ (n : Int) = i) ∨
    ∃ digits n, cs = '-' :: digits ∧ Digits digits n ∧ -(n : Int) = i

theorem not_isNumeral_minus {rest : List Char} {n : Nat} : ¬IsNumeral ('-' :: rest) n := by
  rw [isNumeral_iff_digits (by simp)]
  exact fun h => absurd (h.digits '-' List.mem_cons_self) (by decide)

theorem isSigned_minus_iff {digits : List Char} {i : Int} :
    IsSigned ('-' :: digits) i ↔ ∃ n, Digits digits n ∧ -(n : Int) = i := by
  constructor
  · rintro (⟨n, hn, -⟩ | ⟨digits', n, heq, hn⟩)
    · exact absurd hn not_isNumeral_minus
    · rw [(List.cons.inj heq).2]
      exact ⟨n, hn⟩
  · rintro ⟨n, hn⟩
    exact .inr ⟨digits, n, rfl, hn⟩

theorem isSigned_iff_numeral {cs : List Char} (h : ∀ digits, cs ≠ '-' :: digits) {i : Int} :
    IsSigned cs i ↔ ∃ n, IsNumeral cs n ∧ (n : Int) = i :=
  or_iff_left fun ⟨digits, _, heq, _⟩ => h digits heq

/-- Digits without a sign are read if what they are worth is a word. -/
private theorem plain_eq_ok_iff {cs : List Char} {i : Int} (h : cs ≠ []) :
    (readDigits (signedBound - 1) .tooLarge 0 cs).map Int.ofNat = .ok i ↔
      (∃ n, Digits cs n ∧ (n : Int) = i) ∧ IsWord i := by
  rw [map_eq_ok_iff]
  simp only [readDigits_zero_eq_ok_iff h, Int.ofNat_eq_natCast, signedBound]
  constructor
  · rintro ⟨n, ⟨hn, hmax⟩, rfl⟩
    exact ⟨⟨n, hn, rfl⟩, by omega, by omega⟩
  · rintro ⟨⟨n, hn, rfl⟩, -, hlt⟩
    exact ⟨n, ⟨hn, by omega⟩, rfl⟩

/-- **The signed numerals of words are what is read.** -/
theorem readInt64_eq_ok_iff {cs : List Char} {i : Int} :
    readInt64 cs = .ok i ↔ IsSigned cs i ∧ IsWord i := by
  unfold readInt64
  split
  · refine iff_of_false (by simp) fun ⟨hsigned, _⟩ => ?_
    obtain ⟨n, hn, -⟩ := (isSigned_iff_numeral (by simp)).1 hsigned
    exact not_digits_nil ((isNumeral_iff_digits (by simp)).1 hn)
  · refine iff_of_false (by simp) fun ⟨hsigned, _⟩ => ?_
    obtain ⟨n, hn, -⟩ := (isSigned_iff_numeral (by simp)).1 hsigned
    exact not_digits_nil (isNumeral_plus_iff.1 hn)
  · refine iff_of_false (by simp) fun ⟨hsigned, _⟩ => ?_
    obtain ⟨n, hn, -⟩ := isSigned_minus_iff.1 hsigned
    exact not_digits_nil hn
  · rename_i digits hne
    rw [isSigned_minus_iff]
    constructor
    · intro h
      obtain ⟨_, hread, rfl⟩ := map_eq_ok_iff.1 h
      obtain ⟨n, hn, hpure⟩ := bind_eq_ok_iff.1 hread
      obtain rfl := Except.ok.inj hpure
      obtain ⟨hdigits, hmax⟩ := (readDigits_zero_eq_ok_iff hne).1 hn
      rw [signedBound] at hmax
      exact ⟨⟨n, hdigits, rfl⟩, by omega, by omega⟩
    · rintro ⟨⟨n, hn, rfl⟩, hge, -⟩
      have hmax : n ≤ signedBound := by
        rw [signedBound]
        omega
      rw [(readDigits_zero_eq_ok_iff hne).2 ⟨hn, hmax⟩]
      rfl
  · rename_i digits hne
    rw [isSigned_iff_numeral (by simp), plain_eq_ok_iff hne]
    simp only [isNumeral_plus_iff]
  · rename_i hne _ _ hminus hplus
    rw [isSigned_iff_numeral hminus, plain_eq_ok_iff hne]
    simp only [isNumeral_iff_digits hplus]

theorem mem_intText {i : Int} {c : Char} (h : c ∈ (intText i).toList) :
    c = '-' ∨ c.isDigit = true := by
  rw [intText] at h
  split at h
  · rw [String.toList_append, List.mem_append] at h
    exact h.imp (fun hsign => by simpa using hsign) isDigit_of_mem_natText
  · exact .inr (isDigit_of_mem_natText h)

/-- The numeral of an integer is a signed one. -/
theorem isSigned_intText (i : Int) : IsSigned (intText i).toList i := by
  rw [intText]
  split
  · rename_i hneg
    rw [String.toList_append]
    exact .inr ⟨_, i.natAbs, rfl, digits_natText i.natAbs, by omega⟩
  · rename_i hpos
    exact .inl ⟨i.natAbs, .inl (digits_natText i.natAbs), by omega⟩

/-- **The numeral of a word is read as that word.** -/
theorem readInt64_intText {i : Int} (h : IsWord i) : readInt64 (intText i).toList = .ok i :=
  readInt64_eq_ok_iff.2 ⟨isSigned_intText i, h⟩

/-- A text without a minus sign is not read as a negative number. -/
theorem nonneg_of_readInt64 {cs : List Char} {i : Int} (h : readInt64 cs = .ok i)
    (hminus : '-' ∉ cs) : 0 ≤ i := by
  obtain ⟨⟨n, -, rfl⟩ | ⟨digits, n, rfl, -⟩, -⟩ := readInt64_eq_ok_iff.1 h
  · exact Int.natCast_nonneg n
  · exact absurd List.mem_cons_self hminus

end RanSlicing.Number
