/-!
# Punycode

A label of a host name with characters beyond ASCII is written in ASCII: the ASCII characters, a
hyphen, and then where the other characters go.

The other characters are put in one by one, those of lower code points first and equal ones from the
left.  An `Insertion` is the code point and the number of characters to the left that are there
already.  A counter runs through all insertions that are possible, first through the places of one
code point and then through those of the next one, and what is written is how far it runs from each
insertion to the next.

A distance is written in base 36, the lowest digit first.  A digit below the threshold of its place
is the last one.  The thresholds depend on a bias that follows the size of the distances.
-/

namespace HtmlQuery.Url.Punycode

/-! ## Insertions -/

/-- A character that is put in among those that are there already. -/
structure Insertion where
  /-- The code point. -/
  code : Nat
  /-- The number of characters to the left of its place. -/
  index : Nat

/-- Whether one insertion comes no later than another one. -/
def Insertion.before (a b : Insertion) : Bool :=
  a.code < b.code || (a.code == b.code && a.index ≤ b.index)

/-- The insertions of the characters beyond ASCII, from the left, given the characters before. -/
def insertionsFrom (left : List Char) : List Char → List Insertion
  | [] => []
  | c :: cs =>
    let others := insertionsFrom (c :: left) cs
    if c.toNat < 0x80 then others else ⟨c.toNat, left.countP (· ≤ c)⟩ :: others

/-- The insertions of a label, in the order in which they are made. -/
def insertions (label : List Char) : List Insertion :=
  (insertionsFrom [] label).mergeSort Insertion.before

/-! ## Distances -/

/-- How far the counter runs to an insertion among `present` characters, from where it stands. -/
def distance (present : Nat) (stand next : Insertion) : Nat :=
  (next.code - stand.code) * (present + 1) + next.index - stand.index

/-- The bias that goes with a distance of a given size. -/
def biasOfSize (size : Nat) : Nat :=
  if 455 < size then 36 + biasOfSize (size / 35) else 36 * size / (size + 38)
termination_by size

/-- The bias after a distance to an insertion among `present` characters.  The first distance is
large for a reason of its own, so it counts less. -/
def biasAfter (first : Bool) (present distance : Nat) : Nat :=
  let damped := distance / (if first then 700 else 2)
  biasOfSize (damped + damped / (present + 1))

/-! ## Digits -/

/-- A digit of 36: the letters, then the digits. -/
def digit (d : Nat) : Char :=
  if d < 26 then Char.ofNat ('a'.toNat + d) else Char.ofNat ('0'.toNat + d - 26)

/-- The threshold of a place, the places counted in steps of 36. -/
def threshold (bias place : Nat) : Nat :=
  max 1 (min 26 (place - bias))

/-- A distance in digits, from a place on. -/
def digitsFrom (bias place n : Nat) : List Char :=
  let t := threshold bias place
  if n < t then [digit n]
  else digit (t + (n - t) % (36 - t)) :: digitsFrom bias (place + 36) ((n - t) / (36 - t))
termination_by n
decreasing_by
  have : 1 ≤ threshold bias place := Nat.le_max_left ..
  have := Nat.div_le_self (n - threshold bias place) (36 - threshold bias place)
  omega

/-- The digits of the distances between insertions, with the bias for the first of them. -/
def digitsOf (first : Bool) (present bias : Nat) (stand : Insertion) : List Insertion → List Char
  | [] => []
  | next :: later =>
    let n := distance present stand next
    digitsFrom bias 36 n ++
      digitsOf false (present + 1) (biasAfter first present n) ⟨next.code, next.index + 1⟩ later

/-- A label in ASCII. -/
def encode (label : List Char) : List Char :=
  let ascii := label.filter (·.toNat < 0x80)
  let front := if ascii.isEmpty then [] else ascii ++ ['-']
  front ++ digitsOf true ascii.length 72 ⟨0x80, 0⟩ (insertions label)

/-! ## Reading -/

/-- The value of a digit of 36. -/
def digitValue? (c : Char) : Option Nat :=
  if 'a' ≤ c && c ≤ 'z' then some (c.toNat - 'a'.toNat)
  else if 'A' ≤ c && c ≤ 'Z' then some (c.toNat - 'A'.toNat)
  else if '0' ≤ c && c ≤ '9' then some (c.toNat - '0'.toNat + 26)
  else none

/-- The digits of the first distance as a number, each digit counting `weight` times as much as the
one before it, and the digits that are left. -/
def readDistance? (bias place weight : Nat) : List Char → Option (Nat × List Char)
  | [] => none
  | c :: cs => do
    let d ← digitValue? c
    let t := threshold bias place
    if d < t then return (d * weight, cs)
    else
      let (n, rest) ← readDistance? bias (place + 36) (weight * (36 - t)) cs
      return (d * weight + n, rest)

theorem length_of_readDistance? {bias place weight n : Nat} {s rest : List Char}
    (h : readDistance? bias place weight s = some (n, rest)) : rest.length < s.length := by
  induction s generalizing place weight n with
  | nil => simp [readDistance?] at h
  | cons c cs ih =>
    rw [readDistance?] at h
    cases hd : digitValue? c with
    | none => simp [hd] at h
    | some d =>
      simp only [hd, Option.bind_eq_bind, Option.bind_some] at h
      split at h
      · simp at h
        simp [h.2]
      · cases hr : readDistance? bias (place + 36) (weight * (36 - threshold bias place)) cs with
        | none => simp [hr] at h
        | some found =>
          simp [hr] at h
          obtain ⟨-, rfl⟩ := h
          exact Nat.lt_succ_of_lt (ih hr)

/-- Makes the insertions that distances write. -/
def insertAll? (first : Bool) (bias : Nat) (stand : Insertion) (label digits : List Char) :
    Option (List Char) :=
  if digits.isEmpty then some label
  else
    match h : readDistance? bias 36 1 digits with
    | none => none
    | some (n, rest) =>
      have := length_of_readDistance? h
      let present := label.length
      let run := stand.index + n
      let code := stand.code + run / (present + 1)
      let index := run % (present + 1)
      if code.isValidChar then
        insertAll? false (biasAfter first present n) ⟨code, index + 1⟩
          (label.insertIdx index (Char.ofNat code)) rest
      else none
termination_by digits.length

/-- The label that a text in ASCII writes.  A hyphen does not stand at the front. -/
def decode? (s : List Char) : Option (List Char) :=
  let digits := (s.reverse.takeWhile (· != '-')).reverse
  let front := s.take (s.length - digits.length)
  if front == ['-'] then none else insertAll? true 72 ⟨0x80, 0⟩ front.dropLast digits

end HtmlQuery.Url.Punycode
