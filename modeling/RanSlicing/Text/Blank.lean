/-
Blank characters, and what the ends of a text lose to them.

A text that an operator or another program wrote is read without the blanks around it.  Blank
is the White_Space property of Unicode, which is more than the blanks of ASCII and less than
everything invisible: the no-break space and the line separators are blank, the zero-width
space and the byte-order mark are not.
-/
namespace RanSlicing.Text

/-- A character of the White_Space property. -/
def isBlank (c : Char) : Bool :=
  let n := c.toNat
  (0x9 ≤ n && n ≤ 0xd) || n == 0x20 || n == 0x85 || n == 0xa0 || n == 0x1680 ||
    (0x2000 ≤ n && n ≤ 0x200a) || n == 0x2028 || n == 0x2029 || n == 0x202f || n == 0x205f ||
    n == 0x3000

/-- The text without the blanks at its front. -/
def trimFront (cs : List Char) : List Char := cs.dropWhile isBlank

/-- The text without the blanks at its back. -/
def trimBack (cs : List Char) : List Char := (cs.reverse.dropWhile isBlank).reverse

/-- The text without the blanks at both ends. -/
def trim (cs : List Char) : List Char := trimBack (trimFront cs)

/-- Nothing is trimmed from a text that has no blank at its ends. -/
theorem trim_eq_self {cs : List Char} (hfront : ∀ c ∈ cs.head?, isBlank c = false)
    (hback : ∀ c ∈ cs.getLast?, isBlank c = false) : trim cs = cs := by
  have hf : trimFront cs = cs := by
    cases cs with
    | nil => rfl
    | cons c rest =>
      have hc : isBlank c = false := hfront c (by simp)
      simp [trimFront, hc]
  rw [trim, hf, trimBack]
  have hb : cs.reverse.dropWhile isBlank = cs.reverse := by
    cases hr : cs.reverse with
    | nil => rfl
    | cons c rest =>
      have hc : isBlank c = false := hback c (by
        have : cs.getLast? = some c := by rw [← List.head?_reverse, hr]; rfl
        simp [this])
      simp [hc]
  rw [hb, List.reverse_reverse]

end RanSlicing.Text
