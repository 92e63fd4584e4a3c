/-
The text of a mask, and what may stand around it.

A mask and its digits say the same, so a mask is read exactly from its own digits, whatever blanks
stand around them (`ofText?_eq_ok_iff`).  Digits are read from the left, and the reading stops at
the first character that is none.  The fault names that character and its place behind the blanks
at the front (`ofText?_eq_error_iff`).
-/
import RanSlicing.Mask
import RanSlicing.Proofs.Except
import RanSlicing.Proofs.Text.Lines

namespace RanSlicing

open Number (natText)

namespace Mask

/-! ### Digits -/

/-- The digit that stands for a unit. -/
def digit (held : Bool) : Char := if held then '1' else '0'

/-- A character that stands for a unit. -/
def IsDigit (c : Char) : Prop := c = '0' ∨ c = '1'

instance (c : Char) : Decidable (IsDigit c) := inferInstanceAs (Decidable (c = '0' ∨ c = '1'))

theorem digits_cons (held : Bool) (bits : List Bool) :
    digits ⟨held :: bits⟩ = digit held :: digits ⟨bits⟩ := rfl

theorem digit_injective : ∀ a b : Bool, digit a = digit b → a = b := by decide

theorem isDigit_iff {c : Char} : IsDigit c ↔ ∃ held, digit held = c := by
  constructor
  · rintro (rfl | rfl)
    · exact ⟨false, rfl⟩
    · exact ⟨true, rfl⟩
  · rintro ⟨held, rfl⟩
    cases held with
    | false => exact .inl rfl
    | true => exact .inr rfl

theorem isDigit_of_mem_digits {m : Mask} {c : Char} (h : c ∈ m.digits) : IsDigit c := by
  obtain ⟨held, -, rfl⟩ := List.mem_map.1 h
  exact isDigit_iff.2 ⟨held, rfl⟩

theorem not_mem_digits (m : Mask) {c : Char} (hzero : c ≠ '0') (hone : c ≠ '1') :
    c ∉ m.digits :=
  fun hmem => (isDigit_of_mem_digits hmem).elim hzero hone

theorem not_isBlank_of_mem_digits {m : Mask} {c : Char} (h : c ∈ m.digits) :
    Text.isBlank c = false := by
  rcases isDigit_of_mem_digits h with rfl | rfl <;> decide

theorem trim_digits (m : Mask) : Text.trim m.digits = m.digits :=
  Text.trim_of_forall_not_blank fun _ => not_isBlank_of_mem_digits

/-- Nothing but digits are the digits of a mask. -/
theorem exists_digits_iff {cs : List Char} :
    (∃ m : Mask, m.digits = cs) ↔ ∀ c ∈ cs, IsDigit c := by
  constructor
  · rintro ⟨m, rfl⟩ c
    exact isDigit_of_mem_digits
  · intro h
    induction cs with
    | nil => exact ⟨⟨[]⟩, rfl⟩
    | cons c rest ih =>
        obtain ⟨hc, hrest⟩ := List.forall_mem_cons.1 h
        obtain ⟨held, rfl⟩ := isDigit_iff.1 hc
        obtain ⟨⟨bits⟩, rfl⟩ := ih hrest
        exact ⟨⟨held :: bits⟩, digits_cons held bits⟩

/-! ### The first character that is no digit -/

/-- The first character of a text that is no digit, and how many characters stand before it. -/
structure FirstForeign (cs : List Char) (c : Char) (position : Nat) : Prop where
  stands : cs[position]? = some c
  foreign : ¬IsDigit c
  before : ∀ d ∈ cs.take position, IsDigit d

theorem not_firstForeign_nil {c : Char} {position : Nat} : ¬FirstForeign [] c position :=
  fun h => by simpa using h.stands

/-- A character that is no digit is the first such one of the text that it begins. -/
theorem firstForeign_cons_foreign {c d : Char} {cs : List Char} {position : Nat}
    (hc : ¬IsDigit c) : FirstForeign (c :: cs) d position ↔ d = c ∧ position = 0 := by
  constructor
  · rintro ⟨hstands, -, hbefore⟩
    cases position with
    | zero => exact ⟨(Option.some.inj hstands).symm, rfl⟩
    | succ position => exact absurd (hbefore c (by simp)) hc
  · rintro ⟨rfl, rfl⟩
    exact ⟨rfl, hc, by simp⟩

/-- A digit in front moves the first character that is none by one place. -/
theorem firstForeign_cons_digit {c d : Char} {cs : List Char} {position : Nat} (hc : IsDigit c) :
    FirstForeign (c :: cs) d position ↔
      ∃ later, FirstForeign cs d later ∧ position = later + 1 := by
  constructor
  · rintro ⟨hstands, hforeign, hbefore⟩
    cases position with
    | zero =>
        obtain rfl : c = d := Option.some.inj hstands
        exact absurd hc hforeign
    | succ later =>
        refine ⟨later, ⟨hstands, hforeign, fun e he => hbefore e ?_⟩, rfl⟩
        rw [List.take_succ_cons]
        exact List.mem_cons_of_mem _ he
  · rintro ⟨later, ⟨hstands, hforeign, hbefore⟩, rfl⟩
    refine ⟨hstands, hforeign, ?_⟩
    rw [List.take_succ_cons]
    exact List.forall_mem_cons.2 ⟨hc, hbefore⟩

/-! ### What is read -/

theorem ofDigits?_digit (position : Nat) (held : Bool) (cs : List Char) :
    ofDigits? position (digit held :: cs) = (ofDigits? (position + 1) cs).map (held :: ·) := by
  cases held <;> rfl

theorem ofDigits?_foreign {c : Char} (h : ¬IsDigit c) (position : Nat) (cs : List Char) :
    ofDigits? position (c :: cs) = .error (.maskCharacter c position) := by
  unfold ofDigits?
  split
  · rename_i heq
    simp at heq
  · rename_i heq
    exact absurd (.inl (List.cons.inj heq).1) h
  · rename_i heq
    exact absurd (.inr (List.cons.inj heq).1) h
  · rename_i heq
    rw [(List.cons.inj heq).1]

theorem ofDigits?_eq_ok_iff {cs : List Char} :
    ∀ {position : Nat} {bits : List Bool},
      ofDigits? position cs = .ok bits ↔ digits ⟨bits⟩ = cs := by
  induction cs with
  | nil =>
      intro position bits
      rw [ofDigits?, digits, List.map_eq_nil_iff, Except.ok.injEq, eq_comm]
  | cons c rest ih =>
      intro position bits
      by_cases hc : IsDigit c
      · obtain ⟨held, rfl⟩ := isDigit_iff.1 hc
        rw [ofDigits?_digit, map_eq_ok_iff]
        constructor
        · rintro ⟨others, hothers, rfl⟩
          rw [digits_cons, ih.1 hothers]
        · intro h
          cases bits with
          | nil => simp [digits] at h
          | cons first others =>
              obtain ⟨hfirst, hothers⟩ := List.cons.inj h
              exact ⟨others, ih.2 hothers, by rw [digit_injective first held hfirst]⟩
      · rw [ofDigits?_foreign hc]
        refine iff_of_false (by simp) fun h => hc ?_
        exact isDigit_of_mem_digits (m := ⟨bits⟩) (by rw [h]; exact List.mem_cons_self)

theorem ofDigits?_eq_error_iff {cs : List Char} {f : Fault} :
    ∀ {position : Nat}, ofDigits? position cs = .error f ↔
      ∃ c later, FirstForeign cs c later ∧ f = .maskCharacter c (position + later) := by
  induction cs with
  | nil =>
      intro position
      refine iff_of_false (by simp [ofDigits?]) ?_
      rintro ⟨c, later, h, -⟩
      exact not_firstForeign_nil h
  | cons c rest ih =>
      intro position
      by_cases hc : IsDigit c
      · obtain ⟨held, rfl⟩ := isDigit_iff.1 hc
        rw [ofDigits?_digit, map_eq_error_iff, ih]
        constructor
        · rintro ⟨d, later, hd, rfl⟩
          refine ⟨d, later + 1, (firstForeign_cons_digit hc).2 ⟨later, hd, rfl⟩, ?_⟩
          rw [Nat.add_assoc, Nat.add_comm 1 later]
        · rintro ⟨d, place, hd, rfl⟩
          obtain ⟨later, hlater, rfl⟩ := (firstForeign_cons_digit hc).1 hd
          refine ⟨d, later, hlater, ?_⟩
          rw [Nat.add_assoc, Nat.add_comm 1 later]
      · rw [ofDigits?_foreign hc]
        simp only [firstForeign_cons_foreign hc, Except.error.injEq]
        constructor
        · rintro rfl
          exact ⟨c, 0, ⟨rfl, rfl⟩, rfl⟩
        · rintro ⟨d, later, ⟨rfl, rfl⟩, rfl⟩
          rfl

/-- **A mask is read from its own digits and from nothing else**, but for the blanks around. -/
theorem ofText?_eq_ok_iff {s : String} {m : Mask} :
    ofText? s = .ok m ↔ m.digits = Text.trim s.toList := by
  rw [ofText?, map_eq_ok_iff]
  constructor
  · rintro ⟨bits, hbits, rfl⟩
    exact ofDigits?_eq_ok_iff.1 hbits
  · intro h
    exact ⟨m.bits, ofDigits?_eq_ok_iff.2 h, rfl⟩

/-- **Any other text is refused at its first character that is no digit.** -/
theorem ofText?_eq_error_iff {s : String} {f : Fault} :
    ofText? s = .error f ↔
      ∃ c position, FirstForeign (Text.trim s.toList) c position ∧ f = .maskCharacter c position := by
  rw [ofText?, map_eq_error_iff, ofDigits?_eq_error_iff]
  simp only [Nat.zero_add]

/-- A mask is read from its text, whatever blanks stand around it. -/
theorem ofText?_of_blanks (m : Mask) {front back : String}
    (hfront : ∀ c ∈ front.toList, Text.isBlank c = true)
    (hback : ∀ c ∈ back.toList, Text.isBlank c = true) :
    ofText? (front ++ m.text ++ back) = .ok m := by
  rw [ofText?_eq_ok_iff, String.toList_append, String.toList_append, text, String.toList_ofList,
    Text.trim_append_blanks _ hback, Text.trim_blanks_append hfront, trim_digits]

theorem ofText?_text (m : Mask) : ofText? m.text = .ok m := by
  rw [ofText?_eq_ok_iff, text, String.toList_ofList, trim_digits]

/-- A mask that is written to a file is its only line. -/
theorem lines_text (m : Mask) : Text.lines (m.text ++ "\n").toList = [m.digits] := by
  have hnewline : ∀ line ∈ [m.digits], '\n' ∉ line := by
    simpa using m.not_mem_digits (by decide) (by decide)
  have hread := Text.lines_flatMap hnewline
  rw [List.map_singleton,
    Text.closeLine_reverse (m.not_mem_digits (by decide) (by decide))] at hread
  rw [← hread]
  simp [text]

/-- Only the mask without units has no digits. -/
theorem eq_unassigned_of_text_eq_empty {m : Mask} (h : m.text = "") : m = unassigned 0 := by
  have hnil : m.digits = [] := by
    rw [← String.ofList_inj]
    exact h
  rw [digits, List.map_eq_nil_iff] at hnil
  cases m
  exact congrArg Mask.mk hnil

theorem message_maskCharacter (c : Char) (position : Nat) :
    (Fault.maskCharacter c position).message =
      "Invalid mask: unexpected character " ++ Text.quotedChar c ++ " at position " ++
        natText position := by
  have hheading :
      "Invalid mask: unexpected character " = "Invalid mask: " ++ "unexpected character " := by
    decide
  show "Invalid mask: " ++ ("unexpected character " ++ Text.quotedChar c ++ " at position " ++
    natText position) = _
  simp only [hheading, String.append_assoc]

/-- What is read of a text of which `core` is left without the blanks around it. -/
structure ReadFrom (s : String) (core : List Char) : Prop where
  trimmed : Text.Trimmed s.toList core
  /-- A mask is read exactly if nothing but digits is left. -/
  accepted : (∃ m, ofText? s = .ok m) ↔ ∀ c ∈ core, IsDigit c
  /-- What is left is then the text of the mask. -/
  kept : ∀ m, ofText? s = .ok m → m.text = String.ofList core
  /-- Otherwise the fault is about the first character that is none, and where it stands. -/
  refused : ∀ f, ofText? s = .error f ↔
    ∃ c position, FirstForeign core c position ∧ f = .maskCharacter c position
  /-- Its wording names them. -/
  worded : ∀ f, ofText? s = .error f → ∃ c position, FirstForeign core c position ∧
    f.message = "Invalid mask: unexpected character " ++ Text.quotedChar c ++ " at position " ++
      natText position

/-- **The text of a mask is its digits.**  Of any text without the blanks around it a mask is read
if that is digits, and the first character that is none is reported otherwise; a mask of any width
is read back from its text with any blanks around it. -/
theorem text_form :
    (∀ s : String, ReadFrom s (Text.trim s.toList)) ∧
      ∀ (m : Mask) (front back : String), (∀ c ∈ front.toList, Text.isBlank c = true) →
        (∀ c ∈ back.toList, Text.isBlank c = true) → ofText? (front ++ m.text ++ back) = .ok m := by
  refine ⟨fun s => ?_, fun m front back hfront hback => ofText?_of_blanks m hfront hback⟩
  refine ⟨Text.trimmed_trim s.toList, ?_, fun m hm => ?_, fun f => ofText?_eq_error_iff,
    fun f hf => ?_⟩
  · simp only [ofText?_eq_ok_iff]
    exact exists_digits_iff
  · rw [text, ofText?_eq_ok_iff.1 hm]
  · obtain ⟨c, position, hfirst, rfl⟩ := ofText?_eq_error_iff.1 hf
    exact ⟨c, position, hfirst, message_maskCharacter c position⟩

/-- An ideographic space is a blank like any other, and the character after a digit has place one
however many bytes they take. -/
theorem text_form_of_wide_characters :
    Text.isBlank '\u3000' = true ∧ Text.isBlank '\n' = true ∧
      ofText? "\u300001\n" = .ok ⟨[false, true]⟩ ∧
      ofText? "\u30000é1" = .error (.maskCharacter 'é' 1) ∧
      (Fault.maskCharacter 'é' 1).message = "Invalid mask: unexpected character 'é' at position 1" := by
  have hspace : Text.isBlank '\u3000' = true := by decide
  have hnewline : Text.isBlank '\n' = true := by decide
  have hmask : ofText? "\u300001\n" = .ok ⟨[false, true]⟩ :=
    text_form.2 ⟨[false, true]⟩ "\u3000" "\n" (List.forall_mem_singleton.2 hspace)
      (List.forall_mem_singleton.2 hnewline)
  have hcore : Text.trim "\u30000é1".toList = ['0', 'é', '1'] := by decide
  have hfirst : FirstForeign ['0', 'é', '1'] 'é' 1 :=
    ⟨rfl, by decide, List.forall_mem_singleton.2 (by decide)⟩
  have hrefused : ofText? "\u30000é1" = .error (.maskCharacter 'é' 1) :=
    ((text_form.1 "\u30000é1").refused _).2 ⟨'é', 1, hcore ▸ hfirst, rfl⟩
  exact ⟨hspace, hnewline, hmask, hrefused, by rw [message_maskCharacter]; decide +kernel⟩

end Mask

end RanSlicing
