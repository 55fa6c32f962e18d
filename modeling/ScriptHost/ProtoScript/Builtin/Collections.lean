import ScriptHost.ProtoScript.Builtin.Member

/-!
# `Map`, `Set`, iterators, generators and promises
-/

namespace ScriptHost.ProtoScript.Builtin.Collections

open Text (Units)

open Script

/-! ## Maps and sets -/

/-- Zero stands for negative zero as a key. -/
def normalKey (v : Val) : Val := match v with
  | .num x => .num (if x == 0 then 0 else x)
  | _ => v

def mapOf (this : Val) (weak : Bool) : Script (Nat × Array (Val × Val)) := do
  match this with
  | .obj id => match (← obj id).kind with
    | .map entries w =>
      if w == weak then return (id, entries) else throwType "not a Map"
    | _ => throwType (if weak then "not a WeakMap" else "not a Map")
  | _ => throwType (if weak then "not a WeakMap" else "not a Map")

def setOf (this : Val) (weak : Bool) : Script (Nat × Array Val) := do
  match this with
  | .obj id => match (← obj id).kind with
    | .setOf entries w =>
      if w == weak then return (id, entries) else throwType "not a Set"
    | _ => throwType (if weak then "not a WeakSet" else "not a Set")
  | _ => throwType (if weak then "not a WeakSet" else "not a Set")

/-- Only objects are kept weakly. -/
def requireKey (weak : Bool) (k : Val) : Script Unit := do
  if weak && !k.isObject then throwType "not an object"

/-- The place of a key; holes have none. -/
def place? (entries : Array (Val × Val)) (k : Val) : Option Nat :=
  entries.findIdx? fun e => sameValueZero e.1 k

def isHole : Val → Bool
  | .empty => true
  | _ => false

def makeCollection (proto : Intrinsic) (kind : Kind) (adder : String) (pairs : Bool)
    (args : Array Val) (target : Val) : Script Val := do
  if target.isUndefined then throwType "must be called with new"
  let id ← alloc { proto := some (← protoOf target proto), kind }
  let source := arg args 0
  if !source.isNullish then
    let add ← getName (.obj id) adder
    requireFunction add
    forEach source fun item => do
      if pairs then
        if !item.isObject then throwType "not an object"
        let k ← get item (.ofNat 0)
        let v ← get item (.ofNat 1)
        let _ ← call add (.obj id) #[k, v]
      else
        let _ ← call add (.obj id) #[item]
  return .obj id

def putEntry (this k v : Val) (weak : Bool) : Script Val := do
  requireKey weak k
  let (id, entries) ← mapOf this weak
  let k := normalKey k
  let entries := match place? entries k with
    | some i => entries.setIfInBounds i (k, v)
    | none => entries.push (k, v)
  updateObj id fun o => { o with kind := .map entries weak }
  return this

def eraseEntry (this k : Val) (weak : Bool) : Script Val := do
  let (id, entries) ← mapOf this weak
  match place? entries k with
  | some i =>
    updateObj id fun o => { o with
      kind := .map (entries.setIfInBounds i (.empty, .empty)) weak }
    return .bool true
  | none => return .bool false

def mapMethods (weak : Bool) : List Member := [
  .method "set" 2 fun this args => putEntry this (arg args 0) (arg args 1) weak,
  .method "get" 1 fun this args => do
    let (_, entries) ← mapOf this weak
    match place? entries (arg args 0) with
    | some i => return ((entries[i]?).map (·.2)).getD .undefined
    | none => return .undefined,
  .method "has" 1 fun this args => do
    let (_, entries) ← mapOf this weak
    return .bool (place? entries (arg args 0)).isSome,
  .method "delete" 1 fun this args => eraseEntry this (arg args 0) weak]

/-- Calls a function on the entries, those included that are added meanwhile. -/
def eachEntry (id : Nat) (f this : Val) : Nat → Nat → Script Unit
  | 0, _ => throw .exhausted
  | fuel + 1, i => do
    match (← obj id).kind with
    | .map entries _ => match entries[i]? with
      | none => return
      | some (k, v) =>
        if !isHole k then
          let _ ← call f this #[v, k, .obj id]
        eachEntry id f this fuel (i + 1)
    | .setOf entries _ => match entries[i]? with
      | none => return
      | some k =>
        if !isHole k then
          let _ ← call f this #[k, k, .obj id]
        eachEntry id f this fuel (i + 1)
    | _ => return

def mapSpec : ClassSpec where
  proto := .mapProto
  constructor := ⟨"Map", 0, makeMap⟩
  statics := [.speciesGetter]
  methods := mapMethods false ++ [
    .method "clear" 0 fun this _ => do
      let (id, entries) ← mapOf this false
      updateObj id fun o => { o with kind := .map (entries.map fun _ => (.empty, .empty)) false }
      return .undefined,
    .getter "size" fun this => do
      let (_, entries) ← mapOf this false
      return .ofNat (entries.filter fun e => !isHole e.1).size,
    .method "forEach" 1 fun this args => do
      let (id, _) ← mapOf this false
      requireFunction (arg args 0)
      eachEntry id (arg args 0) (arg args 1) stepLimit 0
      return .undefined,
    .method "values" 0 fun this _ => iterator this .values,
    .method "keys" 0 fun this _ => iterator this .keys,
    .method "entries" 0 fun this _ => iterator this .entries,
    .symbolMethod .iterator 0 fun this _ => iterator this .entries]
where
  makeMap (_ : Val) (args : Array Val) (target : Val) : Script Val :=
    makeCollection .mapProto (.map #[] false) "set" true args target
  iterator (this : Val) (part : Part) : Script Val := do
    let (id, _) ← mapOf this false
    allocVal { proto := some Intrinsic.mapIteratorProto.id, kind := .mapIterator id 0 part }

def setMethods (weak : Bool) : List Member := [
  .method "add" 1 fun this args => do
    requireKey weak (arg args 0)
    let (id, entries) ← setOf this weak
    let k := normalKey (arg args 0)
    if !(entries.any fun e => sameValueZero e k) then
      updateObj id fun o => { o with kind := .setOf (entries.push k) weak }
    return this,
  .method "has" 1 fun this args => do
    let (_, entries) ← setOf this weak
    return .bool (entries.any fun e => sameValueZero e (arg args 0)),
  .method "delete" 1 fun this args => do
    let (id, entries) ← setOf this weak
    match entries.findIdx? fun e => sameValueZero e (arg args 0) with
    | some i =>
      updateObj id fun o => { o with kind := .setOf (entries.setIfInBounds i .empty) weak }
      return .bool true
    | none => return .bool false]

def setSpec : ClassSpec where
  proto := .setProto
  constructor := ⟨"Set", 0, makeSet⟩
  statics := [.speciesGetter]
  methods := setMethods false ++ [
    .method "clear" 0 fun this _ => do
      let (id, entries) ← setOf this false
      updateObj id fun o => { o with kind := .setOf (entries.map fun _ => .empty) false }
      return .undefined,
    .getter "size" fun this => do
      let (_, entries) ← setOf this false
      return .ofNat (entries.filter fun e => !isHole e).size,
    .method "forEach" 1 fun this args => do
      let (id, _) ← setOf this false
      requireFunction (arg args 0)
      eachEntry id (arg args 0) (arg args 1) stepLimit 0
      return .undefined,
    .method "values" 0 fun this _ => iterator this .values,
    .method "keys" 0 fun this _ => iterator this .values,
    .method "entries" 0 fun this _ => iterator this .entries,
    .symbolMethod .iterator 0 fun this _ => iterator this .values]
where
  makeSet (_ : Val) (args : Array Val) (target : Val) : Script Val :=
    makeCollection .setProto (.setOf #[] false) "add" false args target
  iterator (this : Val) (part : Part) : Script Val := do
    let (id, _) ← setOf this false
    allocVal { proto := some Intrinsic.setIteratorProto.id, kind := .setIterator id 0 part }

def weakMapSpec : ClassSpec where
  proto := .weakMapProto
  constructor := ⟨"WeakMap", 0, fun _ args target =>
    makeCollection .weakMapProto (.map #[] true) "set" true args target⟩
  methods := mapMethods true

def weakSetSpec : ClassSpec where
  proto := .weakSetProto
  constructor := ⟨"WeakSet", 0, fun _ args target =>
    makeCollection .weakSetProto (.setOf #[] true) "add" false args target⟩
  methods := setMethods true

/-! ## Iterators -/

def done : Script Val := stepResult .undefined true

/-- One of the parts of an entry. -/
def partOf (part : Part) (k v : Val) : Script Val :=
  match part with
  | .keys => return k
  | .values => return v
  | .entries => newArray #[k, v]

def nextOfArray (this : Val) : Script Val := do
  let .obj id := this | throwType "not an Array Iterator"
  match (← obj id).kind with
  | .arrayIterator target i part =>
    if target.isUndefined then done
    else
      let n ← toLength (← getName target "length")
      if i ≥ n then
        updateObj id fun o => { o with kind := .arrayIterator .undefined 0 part }
        done
      else
        updateObj id fun o => { o with kind := .arrayIterator target (i + 1) part }
        let v ← if part == .keys then pure .undefined else get target (.ofNat i)
        stepResult (← partOf part (.ofNat i) v) false
  | _ => throwType "not an Array Iterator"

def nextOfText (this : Val) : Script Val := do
  let .obj id := this | throwType "not a String Iterator"
  match (← obj id).kind with
  | .stringIterator u i =>
    if i ≥ u.size then done
    else
      let (_, n) := u.codeAt i
      updateObj id fun o => { o with kind := .stringIterator u (i + n) }
      stepResult (.str (u.slice i (i + n))) false
  | _ => throwType "not a String Iterator"

/-- The first place from an index on that is no hole. -/
def nextPlace {α : Type} (entries : Array α) (hole : α → Bool) : Nat → Nat → Option (Nat × α)
  | 0, _ => none
  | fuel + 1, i => match entries[i]? with
    | none => none
    | some e => if hole e then nextPlace entries hole fuel (i + 1) else some (i, e)

/-- The place of an iterator that has come to its end: beyond every entry. -/
def endlessIndex : Nat := 0x1000000000000000

def nextOfMap (this : Val) : Script Val := do
  let .obj id := this | throwType "not a Map Iterator"
  match (← obj id).kind with
  | .mapIterator target i part =>
    let entries := match (← obj target).kind with
      | .map entries _ => entries
      | _ => #[]
    match nextPlace entries (fun e => isHole e.1) (entries.size + 1) i with
    | none =>
      updateObj id fun o => { o with kind := .mapIterator target endlessIndex part }
      done
    | some (j, k, v) =>
      updateObj id fun o => { o with kind := .mapIterator target (j + 1) part }
      stepResult (← partOf part k v) false
  | _ => throwType "not a Map Iterator"

def nextOfSet (this : Val) : Script Val := do
  let .obj id := this | throwType "not a Set Iterator"
  match (← obj id).kind with
  | .setIterator target i part =>
    let entries := match (← obj target).kind with
      | .setOf entries _ => entries
      | _ => #[]
    match nextPlace entries isHole (entries.size + 1) i with
    | none =>
      updateObj id fun o => { o with kind := .setIterator target endlessIndex part }
      done
    | some (j, v) =>
      updateObj id fun o => { o with kind := .setIterator target (j + 1) part }
      stepResult (← partOf part v v) false
  | _ => throwType "not a Set Iterator"

/-- Goes on with a generator. -/
def resume (this : Val) (sent : Resumption) : Script Val := do
  match this with
  | .obj id =>
    let (v, ended) ← fun calls => calls.resume id sent
    stepResult v ended
  | _ => throwType "not a generator"

def iteratorNamespaces : List Namespace := [
  { name := none, home := some .iteratorProto
    members := [.symbolMethod .iterator 0 fun this _ => return this] },
  { name := none, home := some .arrayIteratorProto, tag := some "Array Iterator"
    members := [.method "next" 0 fun this _ => nextOfArray this] },
  { name := none, home := some .stringIteratorProto, tag := some "String Iterator"
    members := [.method "next" 0 fun this _ => nextOfText this] },
  { name := none, home := some .mapIteratorProto, tag := some "Map Iterator"
    members := [.method "next" 0 fun this _ => nextOfMap this] },
  { name := none, home := some .setIteratorProto, tag := some "Set Iterator"
    members := [.method "next" 0 fun this _ => nextOfSet this] },
  { name := none, home := some .generatorProto, tag := some "Generator"
    members := [
      .method "next" 1 fun this args => resume this (.next (arg args 0)),
      .method "return" 1 fun this args => resume this (.returning (arg args 0)),
      .method "throw" 1 fun this args => resume this (.throwing (arg args 0))] },
  { name := none, home := some .generatorFunctionProto, tag := some "GeneratorFunction"
    members := [] },
  { name := none, home := some .asyncFunctionProto, tag := some "AsyncFunction", members := [] },
  { name := none, home := some .asyncGeneratorFunctionProto
    tag := some "AsyncGeneratorFunction", members := [] },
  { name := none, home := some .asyncGeneratorProto, tag := some "AsyncGenerator"
    members := ["next", "return", "throw"].map fun name =>
      .method name 1 fun _ _ => allocVal {
        proto := some Intrinsic.promiseProto.id, kind := .promise .pending } }]

/-! ## Promises -/

/-- A new promise. -/
def promise (s : Settlement) : Script Val :=
  allocVal { proto := some Intrinsic.promiseProto.id, kind := .promise s }

/-- Settles a promise that is not settled yet. -/
def settlePending (this : Val) (s : Settlement) : Script Val := do
  match this with
  | .obj id => updateObj id fun o => match o.kind with
    | .promise .pending => { o with kind := .promise s }
    | _ => o
  | _ => pure ()
  return .undefined

/-- A function that settles a promise. -/
def settler (p : Val) (f : Intrinsic) : Script Val :=
  allocVal { proto := some Intrinsic.functionProto.id, kind := .bound f.val p #[] }

/-- Reactions to promises are not run, since no program outlives its evaluation. -/
def promiseSpec : ClassSpec where
  proto := .promiseProto
  constructor := ⟨"Promise", 1, fun _ args target => do
    if target.isUndefined then throwType "must be called with new"
    requireFunction (arg args 0)
    let p ← allocVal {
      proto := some (← protoOf target .promiseProto), kind := .promise .pending }
    let fulfil ← settler p .promiseFulfil
    let reject ← settler p .promiseReject
    catching (do let _ ← call (arg args 0) .undefined #[fulfil, reject]) fun e => do
      let _ ← settlePending p (.rejected e)
    return p⟩
  statics := [
    .speciesGetter,
    .method "resolve" 1 fun _ args => do
      match arg args 0 with
      | .obj id => match (← obj id).kind with
        | .promise _ => return arg args 0
        | _ => promise (.fulfilled (arg args 0))
      | v => promise (.fulfilled v),
    .method "reject" 1 fun _ args => promise (.rejected (arg args 0)),
    .method "all" 1 fun _ _ => promise .pending,
    .method "allSettled" 1 fun _ _ => promise .pending,
    .method "any" 1 fun _ _ => promise .pending,
    .method "race" 1 fun _ _ => promise .pending,
    { Member.method "fulfil" 1 fun this args => settlePending this (.fulfilled (arg args 0)) with
      place := some .promiseFulfil, key := .symbol WellKnown.names.length },
    { Member.method "reject" 1 fun this args => settlePending this (.rejected (arg args 0)) with
      place := some .promiseReject, key := .symbol WellKnown.names.length }]
  methods := [
    .method "then" 2 fun _ _ => promise .pending,
    .method "catch" 1 fun _ _ => promise .pending,
    .method "finally" 1 fun _ _ => promise .pending]

end ScriptHost.ProtoScript.Builtin.Collections
