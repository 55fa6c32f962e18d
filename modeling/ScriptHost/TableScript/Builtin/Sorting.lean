import ScriptHost.TableScript.Builtin.Argument

/-!
# Sorting of lists

The list is sorted in place by dividing it at the median of three items.  The order may be a function of
the script, which need not be an order at all; so every place is bounded, and how many comparisons are
made is part of what a script can see.

* `Sorting.Order` — how two items compare.
* `Sorting.sort` — sorts a range of a list.
-/

namespace ScriptHost.TableScript.Builtin.Sorting

open Script

/-- How two items compare: the order of the language, or a function. -/
abbrev Order := Option Val

/-- Whether one item stands before another. -/
def before (order : Order) (a b : Val) : Script Bool := do
  match order with
  | some f => return (← callOne f #[a, b]).isTrue
  | none => isLess a b

section

variable (list : Val) (order : Order)

/-- An item of the list. -/
def item (i : Nat) : Script Val := getIndex list (.ofNat i)

/-- Gives two items new values. -/
def setItems (i j : Nat) (a b : Val) : Script Unit := do
  setIndex list (.ofNat i) a
  setIndex list (.ofNat j) b

/-- Brings two items into order; `reversed` tells that the second one is compared first. -/
def orderPair (i j : Nat) : Script Unit := do
  let a ← item list i
  let b ← item list j
  if ← before order b a then setItems list i j b a

/-- The first item from `i + 1` on that does not stand before the pivot. -/
def scanUp (pivot : Val) (high : Nat) : Nat → Nat → Script (Nat × Val)
  | 0, i => return (i, .nil)
  | fuel + 1, i => do
    let i := i + 1
    let a ← item list i
    if ← before order a pivot then
      if i = high - 1 then failCall "invalid order function for sorting"
      scanUp pivot high fuel i
    else return (i, a)

/-- The first item from `j - 1` down that the pivot does not stand before. -/
def scanDown (pivot : Val) (low : Nat) : Nat → Nat → Script (Nat × Val)
  | 0, j => return (j, .nil)
  | fuel + 1, j => do
    let j := j - 1
    let b ← item list j
    if ← before order pivot b then
      if j < low then failCall "invalid order function for sorting"
      scanDown pivot low fuel j
    else return (j, b)

/-- Divides a range whose last item but one is the pivot; answers the pivot's new place. -/
def divide (pivot : Val) (high : Nat) : Nat → Nat → Nat → Script Nat
  | 0, i, _ => return i
  | fuel + 1, i, j => do
    let (i, a) ← scanUp list order pivot high (high + 1) i
    let (j, b) ← scanDown list order pivot i (high + 1) j
    if j < i then
      setItems list (high - 1) i a pivot
      return i
    setItems list i j b a
    divide pivot high fuel i j

/-- Sorts a range.  The shorter part is sorted first, then the other one. -/
def sortRange : Nat → Nat → Nat → Script Unit
  | 0, _, _ => return
  | fuel + 1, low, high => do
    if low ≥ high then return
    orderPair list order low high
    if high - low = 1 then return
    let middle := (low + high) / 2
    let m ← item list middle
    let a ← item list low
    if ← before order m a then setItems list middle low a m
    else
      let b ← item list high
      if ← before order b m then setItems list middle high b m
    if high - low = 2 then return
    let pivot ← item list middle
    let last ← item list (high - 1)
    setItems list middle (high - 1) last pivot
    let p ← divide list order pivot high high low (high - 1)
    if p - low < high - p then
      sortRange fuel low (p - 1)
      sortRange fuel (p + 1) high
    else
      sortRange fuel (p + 1) high
      sortRange fuel low (p - 1)

end

/-- Sorts the first `n` items of a list. -/
def sort (list : Val) (order : Order) (n : Nat) : Script Unit :=
  sortRange list order n 1 n

end ScriptHost.TableScript.Builtin.Sorting
