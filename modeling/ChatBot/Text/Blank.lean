-- White space: the characters of the Unicode property White_Space, and the
-- trimming of texts by them.

namespace ChatBot.Text

/-- A character of the Unicode property White_Space. There are 25 of them. -/
def isBlank (c : Char) : Bool :=
  let n := c.toNat
  (0x9 ≤ n && n ≤ 0xD) || n == 0x20 || n == 0x85 || n == 0xA0 || n == 0x1680 ||
    (0x2000 ≤ n && n ≤ 0x200A) || n == 0x2028 || n == 0x2029 || n == 0x202F ||
    n == 0x205F || n == 0x3000

theorem isBlank_of_isWhitespace {c : Char} (h : c.isWhitespace = true) : isBlank c = true := by
  simp only [Char.isWhitespace, Bool.or_eq_true, decide_eq_true_eq] at h
  rcases h with ((rfl | rfl) | rfl) | rfl <;> rfl

def trimStart (cs : List Char) : List Char := cs.dropWhile isBlank

def trimEnd (cs : List Char) : List Char := (cs.reverse.dropWhile isBlank).reverse

/-- The text without the white space at its two ends. -/
def trim (cs : List Char) : List Char := trimEnd (trimStart cs)

/-- Nothing but white space, or nothing at all. -/
def isBlankText (s : String) : Bool := s.toList.all isBlank

/-- `trim` on strings. -/
def trimmed (s : String) : String := String.ofList (trim s.toList)

/-! ## Small laws -/

@[simp] theorem trimStart_nil : trimStart [] = [] := rfl

theorem trimStart_cons (c : Char) (cs : List Char) :
    trimStart (c :: cs) = if isBlank c then trimStart cs else c :: cs := by
  cases h : isBlank c <;> simp [trimStart, h]

theorem trimEnd_concat (cs : List Char) (c : Char) :
    trimEnd (cs ++ [c]) = if isBlank c then trimEnd cs else cs ++ [c] := by
  cases h : isBlank c <;> simp [trimEnd, h]

end ChatBot.Text
