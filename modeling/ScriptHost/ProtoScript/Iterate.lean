import ScriptHost.ProtoScript.Assign

/-!
# Going through values

* `Script.openIterator`, `advance`, `closeIterator` — the protocol of iterators.
* `Script.collect` — all values of an iterable.
* `Script.enumerate` — the names that a loop over an object goes through.
-/

namespace ScriptHost.ProtoScript

/-- More steps than any computation takes that is meant to end. -/
def stepLimit : Nat := 0x10000000000

namespace Script

/-- The iterator of a value and its method `next`. -/
def openIterator (v : Val) (async : Bool := false) : Script (Val × Val) := do
  let method ← if async then do
      let f ← get v WellKnown.asyncIterator.key
      if f.isNullish then get v WellKnown.iterator.key else pure f
    else get v WellKnown.iterator.key
  if !(← MonadState.get).isCallable method then throwType "value is not iterable"
  let iterator ← call method v #[]
  if !iterator.isObject then throwType "not an object"
  return (iterator, ← getName iterator "next")

/-- The next value of an iterator, or the end. -/
def advance (iterator next : Val) : Script (Option Val) := do
  let r ← call next iterator #[]
  if !r.isObject then throwType "iterator must return an object"
  if (← getName r "done").truthy then return none
  return some (← getName r "value")

/-- Tells an iterator that no more values are asked for. -/
def closeIterator (iterator : Val) : Script Unit := do
  if iterator.isNullish then return
  let f ← getName iterator "return"
  if f.isNullish then return
  let r ← call f iterator #[]
  if !r.isObject then throwType "not an object"

/-- Tells an iterator so because of an error, whose cause is kept. -/
def closeIteratorQuietly (iterator : Val) : Script Unit :=
  catching (closeIterator iterator) fun _ => return

/-- Goes through the values of an iterator; a failing step closes it. -/
def forEachFrom (iterator next : Val) (act : Val → Script Unit) : Nat → Script Unit
  | 0 => throw .exhausted
  | fuel + 1 => do
    match ← advance iterator next with
    | none => return
    | some v =>
      catching (act v) fun e => do
        closeIteratorQuietly iterator
        throwVal e
      forEachFrom iterator next act fuel

/-- Goes through the values of an iterable. -/
def forEach (v : Val) (act : Val → Script Unit) : Script Unit := do
  let (iterator, next) ← openIterator v
  forEachFrom iterator next act stepLimit

/-- The remaining values of an iterator, after some. -/
def collectFrom (iterator next : Val) : Nat → Array Val → Script (Array Val)
  | 0, _ => throw .exhausted
  | fuel + 1, done => do
    match ← advance iterator next with
    | none => return done
    | some v => collectFrom iterator next fuel (done.push v)

/-- All values of an iterable, after some. -/
def collect (v : Val) (done : Array Val := #[]) : Script (Array Val) := do
  let (iterator, next) ← openIterator v
  collectFrom iterator next stepLimit done

/-- The result of a step of an iterator. -/
def stepResult (v : Val) (done : Bool) : Script Val := do
  let id ← newObject
  define id (.name "value") (.plain v)
  define id (.name "done") (.plain (.bool done))
  return .obj id

/-- The enumerable names of an object and of its prototypes; one that an object hides is left out. -/
def namesUp (m : Machine) : Nat → Nat → List String → Array String → Array String
  | 0, _, _, out => out
  | fuel + 1, id, seen, out =>
    let keys := (m.ownKeys id).toList.filterMap fun k => match k with
      | .name s => if seen.contains s then none
        else some (s, ((m.ownProperty? id k).map (·.enumerable)).getD false)
      | .symbol _ => none
    let out := out ++ (keys.filterMap fun (s, e) => if e then some s else none).toArray
    match (m.obj id).proto with
    | some p => namesUp m fuel p (seen ++ keys.map (·.1)) out
    | none => out

/-- The names that a loop over a value goes through. -/
def enumerate (v : Val) : Script Val := do
  if v.isNullish then
    allocVal { proto := none, kind := .names .undefined [] }
  else
    let id ← toObject v
    let m ← MonadState.get
    let names := namesUp m (m.heap.size + 1) id [] #[]
    allocVal { proto := none, kind := .names (.obj id) names.toList }

/-- The first of some names that is still there, and the others. -/
def nextName (m : Machine) (id : Nat) : List String → Option (String × List String)
  | [] => none
  | s :: rest =>
    if (m.property? id (.name s)).isSome then some (s, rest) else nextName m id rest

end Script

end ScriptHost.ProtoScript
