-- Replacing every place where a piece of text occurs.

namespace ChatBot.Text

/-- Puts `value` in every place where `sought` occurs, from left to right. What was put in
is not searched again. -/
def replaceAll (sought value : List Char) (cs : List Char) : List Char :=
  match cs with
  | [] => []
  | c :: rest =>
    if sought.isPrefixOf (c :: rest) then
      value ++ replaceAll sought value (rest.drop (sought.length - 1))
    else c :: replaceAll sought value rest
termination_by cs.length
decreasing_by
  · exact Nat.lt_succ_of_le (List.drop_sublist _ _).length_le
  · exact Nat.lt_succ_self _

/-- `replaceAll` on strings. -/
def replaced (s sought value : String) : String :=
  String.ofList (replaceAll sought.toList value.toList s.toList)

@[simp] theorem replaceAll_nil (sought value : List Char) : replaceAll sought value [] = [] := by
  rw [replaceAll]

theorem replaceAll_cons_of_not_isPrefixOf {sought : List Char} (value : List Char) {c : Char}
    {rest : List Char} (h : sought.isPrefixOf (c :: rest) = false) :
    replaceAll sought value (c :: rest) = c :: replaceAll sought value rest := by
  rw [replaceAll]; simp [h]

end ChatBot.Text
