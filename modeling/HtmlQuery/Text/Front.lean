/-!
# Reading off the front of a text

A `Front` is a value read off the front of a text, with what follows.  What follows is never longer
than the text, so a reader that goes on from there, past at least one more character, ends.

A reader joins fronts with `behind` (after one character) and `andThen` (after another front), which
keep the bound.  `length_lt` says that what follows one more character is shorter than the text.
-/

namespace HtmlQuery.Text

/-- A value read off the front of a text. -/
structure Front (α : Type) (s : List Char) where
  /-- The value. -/
  value : α
  /-- What follows. -/
  rest : List Char
  /-- What follows is not longer than the text. -/
  length_le : rest.length ≤ s.length

namespace Front

theorem length_dropWhile_le (p : Char → Bool) (s : List Char) :
    (s.dropWhile p).length ≤ s.length :=
  (List.dropWhile_suffix p).length_le

/-- The characters of a class at the front. -/
def takeWhile (p : Char → Bool) (s : List Char) : Front (List Char) s :=
  ⟨s.takeWhile p, s.dropWhile p, length_dropWhile_le p s⟩

/-- What follows so many characters. -/
def drop (n : Nat) (s : List Char) : Front Unit s :=
  ⟨(), s.drop n, (List.drop_suffix n s).length_le⟩

/-- A value for no character. -/
def here {α : Type} (value : α) (s : List Char) : Front α s :=
  ⟨value, s, Nat.le_refl _⟩

/-- A value for the whole text. -/
def whole {α : Type} (value : α) (s : List Char) : Front α s :=
  ⟨value, [], Nat.zero_le _⟩

/-- A value read off what follows a character. -/
def behind {α : Type} {s : List Char} (front : Front α s) (c : Char) : Front α (c :: s) :=
  ⟨front.value, front.rest, Nat.le_succ_of_le front.length_le⟩

/-- What follows a word, if the text begins with it. -/
def drop? : List Char → (s : List Char) → Option (Front Unit s)
  | [], s => some (here () s)
  | _ :: _, [] => none
  | w :: word, c :: cs => if w == c then (drop? word cs).map (·.behind c) else none

/-- A value read off what follows another one. -/
def andThen {α β : Type} {s : List Char} (front : Front α s) (next : Front β front.rest) :
    Front β s :=
  ⟨next.value, next.rest, Nat.le_trans next.length_le front.length_le⟩

/-- What follows the first character that is left is shorter than the text. -/
theorem length_lt {α : Type} {s rest : List Char} {c : Char} (front : Front α s)
    (h : front.rest = c :: rest) : rest.length < s.length :=
  Nat.le_trans (Nat.le_of_eq (congrArg List.length h).symm) front.length_le

/-- The value changed by a function. -/
def map {α β : Type} {s : List Char} (f : α → β) (front : Front α s) : Front β s :=
  ⟨f front.value, front.rest, front.length_le⟩

end Front

end HtmlQuery.Text
