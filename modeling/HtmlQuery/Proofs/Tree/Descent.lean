import HtmlQuery.Proofs.Tree.Kinship
import HtmlQuery.Proofs.Tree.Preorder
import HtmlQuery.Proofs.Tree.Walk

/-!
# Walking a subtree by links alone

A walk through a subtree can do without a count of levels.  A `Descent` remembers where it started
and which place it visits next.  To find the place after a leaf it goes up until there is a next
sibling, and gives up where it meets its origin or the top of the tree.

`Walk.below` counts how far below its origin it is instead.  The two go side by side
(`Descent.Tracks`): the place that a descent visits next has its origin as many levels above it as
the walk has counted (`Place.up?`).  Going up, neither meets the origin before the other, since a
place is not above itself.

What either of them gives at the `i`-th call is then the `i`-th node of the list that recursion on
the tree finds below the origin (`Node.below`), and nothing once the list is used up.
-/

namespace HtmlQuery

/-! ## The links -/

/-- The first next sibling of a place or of one above it, as long as none of these is the origin. -/
def Place.rise? (origin p : Place) : Option Place :=
  if (Node.inner p).same (.inner origin) then none
  else
    match p.next? with
    | some q => some q
    | none =>
      match h : p.parent? with
      | none => none
      | some q =>
        have := Place.depth_parent? h
        Place.rise? origin q
termination_by p.depth

/-- The place after this one in a subtree, if it is known where the subtree starts. -/
def Place.after? (origin? : Option Place) (p : Place) : Option Place :=
  match p.firstChild? with
  | some c => some c
  | none => origin?.bind fun origin => Place.rise? origin p

/-- A walk through a subtree that knows where it started and what it visits next. -/
structure Descent where
  /-- Where the walk started. -/
  origin? : Option Place
  /-- The place visited next. -/
  next? : Option Place

namespace Descent

/-- A descent through everything below a node. -/
def ofNode : Node → Descent
  | .inner p => ⟨some p, p.firstChild?⟩
  | .attribute .. => ⟨none, none⟩

/-- What a call gives and what it leaves. -/
def call (d : Descent) : Option Node × Descent :=
  match d.next? with
  | none => (none, d)
  | some p => (some (.inner p), { d with next? := p.after? d.origin? })

/-- What the call after a number of others gives. -/
def callAt (d : Descent) : Nat → Option Node
  | 0 => d.call.1
  | i + 1 => d.call.2.callAt i

end Descent

namespace Walk

/-- What a call gives and what it leaves.  A walk that has ended stays as it is. -/
def call (w : Walk) : Option Node × Walk :=
  match w.next? with
  | none => (none, w)
  | some (n, v) => (some n, v)

/-- What the call after a number of others gives. -/
def callAt (w : Walk) : Nat → Option Node
  | 0 => w.call.1
  | i + 1 => w.call.2.callAt i

/-! ## Calls and lists -/

/-- The calls of a walk give one node after the other of its list, and then nothing any more. -/
theorem callAt_eq (w : Walk) (i : Nat) : w.callAt i = w.toList[i]? := by
  induction i generalizing w with
  | zero =>
    cases h : w.next? with
    | none => simp only [callAt, call, h, toList_of_next?_none h, List.getElem?_nil]
    | some step => simp only [callAt, call, h, toList_of_next? h, List.getElem?_cons_zero]
  | succ i ih =>
    rw [callAt, ih]
    cases h : w.next? with
    | none => simp only [call, h, toList_of_next?_none h, List.getElem?_nil]
    | some step => simp only [call, h, toList_of_next? h, List.getElem?_cons_succ]

end Walk

namespace Place

/-! ## The origin as a count of levels -/

/-- The place a number of levels up. -/
def up? : (levels : Nat) → Place → Option Place
  | 0, p => some p
  | levels + 1, p => p.parent?.bind (up? levels)

theorem up?_of_parent {levels : Nat} {p q : Place} (h : p.parent? = some q) :
    p.up? (levels + 1) = q.up? levels := by
  rw [up?, h, Option.bind_some]

/-- The place some levels up is above, and no place is above itself. -/
theorem above_of_up? {levels : Nat} {p origin : Place} (h : p.up? (levels + 1) = some origin) :
    origin.Above p := by
  induction levels generalizing p with
  | zero => exact .single (by simpa [up?] using h)
  | succ levels ih =>
    obtain ⟨q, hq, h⟩ := Option.bind_eq_some_iff.mp h
    exact (above_iff_of_parent hq).mpr (.inr (ih h))

/-- A handle of a place below the origin is not one of the origin. -/
theorem same_eq_false {origin p : Place} (h : origin.Above p) :
    (Node.inner p).same (.inner origin) = false := by
  refine Bool.eq_false_iff.mpr fun hs => ?_
  have htop : (Node.inner p).document = (Node.inner origin).document :=
    Node.document_eq_iff.mpr h.top_eq
  have hp : p = origin := Node.inner.inj ((Node.same_iff_eq htop).mp hs)
  have hrank : origin.rank + origin.attributes.length < p.rank := h.before.rank
  rw [hp] at hrank
  omega

theorem rise?_self (p : Place) : Place.rise? p p = none := by
  rw [rise?, if_pos (by simp [Node.same])]

theorem rise?_of_next? {origin p q : Place} (h : origin.Above p) (hn : p.next? = some q) :
    Place.rise? origin p = some q := by
  rw [rise?, same_eq_false h]
  simp [hn]

theorem rise?_of_parent? {origin p q : Place} (h : origin.Above p) (hn : p.next? = none)
    (hp : p.parent? = some q) : Place.rise? origin p = Place.rise? origin q := by
  rw [rise?, same_eq_false h, if_neg Bool.false_ne_true, hn]
  dsimp only
  split
  next hq => simp [hp] at hq
  next r hq => rw [Option.some.inj (hp.symm.trans hq)]

/-- Going up by links and by levels leads to the same place. -/
theorem rise?_eq_climb? {depth : Nat} {origin p : Place} (h : p.up? (depth + 1) = some origin) :
    Place.rise? origin p = (p.climb? depth).map (·.2) := by
  induction depth generalizing p with
  | zero =>
    have habove := above_of_up? h
    rw [climb?]
    cases hn : p.next? with
    | some q => exact rise?_of_next? habove hn
    | none =>
      have hp : p.parent? = some origin := by simpa [up?] using h
      exact (rise?_of_parent? habove hn hp).trans origin.rise?_self
  | succ depth ih =>
    have habove := above_of_up? h
    rw [climb?]
    cases hn : p.next? with
    | some q => exact rise?_of_next? habove hn
    | none =>
      obtain ⟨q, hp, hq⟩ := Option.bind_eq_some_iff.mp h
      simp only [hp, Option.bind_some]
      exact (rise?_of_parent? habove hn hp).trans (ih hq)

theorem up?_of_next? {levels : Nat} {p q : Place} (h : p.next? = some q) :
    q.up? (levels + 1) = p.up? (levels + 1) := by
  rw [up?, up?, parent?_of_next? h]

/-- The count is right for the place that climbing finds. -/
theorem up?_of_climb? {depth d : Nat} {p q : Place} (h : p.climb? depth = some (d, q)) :
    q.up? (d + 1) = p.up? (depth + 1) := by
  refine climb?_induction (motive := fun depth p => q.up? (d + 1) = p.up? (depth + 1)) h ?next ?up
  case next =>
    intro p hn
    exact up?_of_next? hn
  case up =>
    intro depth p r hn hr ih
    rw [up?_of_parent hr]
    exact ih

theorem after?_eq_successor? {depth : Nat} {origin p : Place}
    (h : p.up? (depth + 1) = some origin) :
    p.after? (some origin) = (p.successor? depth).map (·.2) := by
  unfold after? successor?
  cases p.firstChild? with
  | some c => rfl
  | none => exact rise?_eq_climb? h

theorem parent?_of_firstChild? {p c : Place} (h : p.firstChild? = some c) : c.parent? = some p :=
  mem_children.mp (children_of_firstChild? h ▸ List.mem_cons_self)

theorem up?_of_successor? {depth d : Nat} {p q : Place} (h : p.successor? depth = some (d, q)) :
    q.up? (d + 1) = p.up? (depth + 1) := by
  unfold successor? at h
  split at h
  next c hc =>
    obtain ⟨rfl, rfl⟩ := Prod.mk.inj (Option.some.inj h)
    exact up?_of_parent (parent?_of_firstChild? hc)
  next => exact up?_of_climb? h

end Place

namespace Descent

/-! ## Side by side -/

/-- A descent and a walk through one subtree stand at one place, and the walk has counted the levels
up to the origin of the descent. -/
inductive Tracks : Descent → Walk → Prop where
  | ended (origin? : Option Place) : Tracks ⟨origin?, none⟩ .ended
  | below {depth : Nat} {origin p : Place} :
    p.up? (depth + 1) = some origin → Tracks ⟨some origin, some p⟩ (.below depth p)

theorem Tracks.ofBelow {origin : Place} {next? : Option Place} {counted? : Option (Nat × Place)}
    (he : next? = counted?.map (·.2))
    (h : ∀ d q, counted? = some (d, q) → q.up? (d + 1) = some origin) :
    Tracks ⟨some origin, next?⟩ (.ofBelow counted?) := by
  subst he
  match counted? with
  | none => exact .ended _
  | some (d, q) => exact .below (h d q rfl)

/-- A call gives the same node on both sides and leaves them side by side. -/
theorem Tracks.call {d : Descent} {w : Walk} (h : Tracks d w) :
    d.call.1 = w.call.1 ∧ Tracks d.call.2 w.call.2 := by
  cases h with
  | ended origin? => exact ⟨rfl, .ended origin?⟩
  | @below depth origin p h =>
    exact ⟨rfl, .ofBelow (Place.after?_eq_successor? h) fun d q hq =>
      (Place.up?_of_successor? hq).trans h⟩

theorem Tracks.callAt {d : Descent} {w : Walk} (h : Tracks d w) (i : Nat) :
    d.callAt i = w.callAt i := by
  induction i generalizing d w with
  | zero => exact h.call.1
  | succ i ih => exact ih h.call.2

theorem tracks_ofNode (n : Node) : Tracks (ofNode n) n.descendantWalk := by
  match n with
  | .inner p =>
    refine .ofBelow (by simp) fun d q hq => ?_
    obtain ⟨c, hc, hq⟩ := Option.map_eq_some_iff.mp hq
    obtain ⟨rfl, rfl⟩ := Prod.mk.inj hq
    rw [Place.up?_of_parent (Place.parent?_of_firstChild? hc), Place.up?]
  | .attribute owner i => exact .ended none

end Descent

namespace Node

/-! ## The list by recursion -/

/-- The nodes below a node: each child and behind it the nodes below the child. -/
def below : Node → List Node
  | .inner p => p.below.map .inner
  | .attribute .. => []

theorem below_eq (n : Node) : n.below = n.children.flatMap fun c => c :: c.below := by
  match n with
  | .inner p => simp only [below, children, Place.below_eq p, List.map_flatMap, List.flatMap_map,
      List.map_cons]
  | .attribute owner i => rfl

theorem descendants_eq_below (n : Node) : n.descendants = n.below := by
  match n with
  | .inner p => rw [descendants, below, Place.descendants_eq_below]
  | .attribute owner i => rfl

/-- Walking a subtree by links alone is recursive pre-order.  The calls give one node after the
other of the list that recursion finds below the origin, for as many calls as the list is long, and
nothing at any later call.  So does the walk that counts levels.  The list holds each node below the
origin once, and so neither the origin nor a node above it nor one of another subtree.  Below an
attribute there is nothing. -/
theorem descent_preorder (n : Node) :
    n.below = (n.children.flatMap fun c => c :: c.below) ∧
    (∀ i, (Descent.ofNode n).callAt i = n.below[i]?) ∧
    (∀ i, n.descendantWalk.callAt i = n.below[i]?) ∧
    (∃ calls, (∀ i < calls, ((Descent.ofNode n).callAt i).isSome) ∧
      ∀ i, calls ≤ i → (Descent.ofNode n).callAt i = none) ∧
    n.below.Nodup ∧
    (∀ m, m ∈ n.below ↔ m.isAttribute = false ∧ n.Above m) ∧
    (∀ i m, (Descent.ofNode n).callAt i = some m → m ≠ n ∧ ¬ m.Above n ∧ n.Above m) ∧
    (n.isAttribute = true → ∀ i, (Descent.ofNode n).callAt i = none) := by
  have walk (i : Nat) : n.descendantWalk.callAt i = n.below[i]? := by
    rw [Walk.callAt_eq, toList_descendantWalk, descendants_eq_below]
  have descent (i : Nat) : (Descent.ofNode n).callAt i = n.below[i]? :=
    ((Descent.tracks_ofNode n).callAt i).trans (walk i)
  have members (m : Node) : m ∈ n.below ↔ m.isAttribute = false ∧ n.Above m := by
    rw [← descendants_eq_below, mem_descendants_iff]
  refine ⟨below_eq n, descent, walk, ⟨n.below.length, ?_, ?_⟩, ?_, members, ?_, ?_⟩
  · intro i hi
    rw [descent, List.getElem?_eq_getElem hi, Option.isSome_some]
  · intro i hi
    rw [descent, List.getElem?_eq_none hi]
  · exact descendants_eq_below n ▸ (isNodeSet_descendants n).nodup
  · intro i m hm
    rw [descent] at hm
    have hbelow : n.Above m := ((members m).mp (List.mem_of_getElem? hm)).2
    have hrank := hbelow.document_rank.2
    refine ⟨?_, fun habove => Nat.lt_asymm hrank habove.document_rank.2, hbelow⟩
    rintro rfl
    exact Nat.lt_irrefl _ hrank
  · intro hattribute i
    rw [descent]
    match n, hattribute with
    | .inner p, h => simp at h
    | .attribute owner j, _ => rfl

end Node

end HtmlQuery
