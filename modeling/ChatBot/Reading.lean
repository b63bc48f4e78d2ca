-- Reading from the front of a list. What was read comes with what is left,
-- and with the fact that something was taken: so every loop over a reading
-- comes to its end.

namespace ChatBot

/-- A value read off the front of `input`, and the shorter rest. -/
structure Reading (α : Type) {τ : Type} (input : List τ) where
  value : α
  rest : List τ
  shorter : rest.length < input.length

/-- A value built on the way, and a rest no longer than `input`. -/
structure Passing (α : Type) {τ : Type} (input : List τ) where
  value : α
  rest : List τ
  within : rest.length ≤ input.length

namespace Reading

variable {α β τ : Type} {input : List τ}

def map (f : α → β) (r : Reading α input) : Reading β input :=
  ⟨f r.value, r.rest, r.shorter⟩

/-- Going on from a reading takes away still more. -/
def andThen (r : Reading α input) (p : Passing β r.rest) : Reading β input :=
  ⟨p.value, p.rest, Nat.lt_of_le_of_lt p.within r.shorter⟩

/-- A reading of the rest after one item is a reading of the whole. -/
def after {t : τ} (r : Reading α input) : Reading α (t :: input) :=
  ⟨r.value, r.rest, Nat.lt_succ_of_lt r.shorter⟩

@[simp] theorem map_value (f : α → β) (r : Reading α input) : (r.map f).value = f r.value := rfl
@[simp] theorem map_rest (f : α → β) (r : Reading α input) : (r.map f).rest = r.rest := rfl

end Reading

/-- Passing over a class of items leaves no more than there was. -/
theorem length_dropWhile_le {τ : Type} (p : τ → Bool) (ts : List τ) :
    (ts.dropWhile p).length ≤ ts.length :=
  (List.dropWhile_sublist p).length_le

end ChatBot
