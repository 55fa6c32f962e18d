import ScriptHost.TableScript.Invoke

/-!
# One instruction

* `Script.step` — runs the present instruction.
* `Script.unwind` — hands an error to the innermost call that catches it.
-/

namespace ScriptHost.TableScript

open Text (Bytes)

namespace Script

/-! ## Operations -/

/-- What one of two values has for an event. -/
def eitherHandler (a b : Val) (e : Event) : Script Val := do
  let m ← MonadState.get
  match m.handler a e with
  | .nil => return m.handler b e
  | f => return f

def arithmetic (op : ArithOp) (dst : Nat) (a b : Val) (aOrigin bOrigin : Origin) :
    Script Outcome := do
  match op.compute? a b with
  | some (.ok v) =>
    initRegister dst v
    goOn
  | some (.error fault) => fail fault.message
  | none =>
    match ← eitherHandler a b op.event with
    | .nil => failArith op a b aOrigin bOrigin
    | f => callFrom f #[a, b] (.first dst)

def unary (op : UnaryOp) (dst : Nat) (v : Val) (origin : Origin) : Script Outcome := do
  let answer (w : Val) : Script Outcome := do
    initRegister dst w
    goOn
  let ask (e : Event) (refuse : Script Outcome) : Script Outcome := do
    match (← MonadState.get).handler v e with
    | .nil => refuse
    | f => callFrom f #[v, v] (.first dst)
  match op with
  | .not => answer (.bool (!v.isTrue))
  | .minus => match v.negate? with
    | some w => answer w
    | none => ask .minus (failOperand v origin "perform arithmetic on")
  | .bitNot => match v.exactInteger? with
    | some i => answer (.int (~~~i))
    | none => ask .bitNot (failArith .bitAnd v v origin origin)
  | .length => match v with
    | .str s => answer (.ofNat s.size)
    | .table id =>
      match (← MonadState.get).handler v .length with
      | .nil => answer (.ofNat (← borderOf id))
      | f => callFrom f #[v, v] (.first dst)
    | _ => ask .length (failOperand v origin "get length of")

/-- The function that compares two values, its arguments, and whether the opposite of its answer counts:
without a function of its own, `a <= b` is the opposite of `b < a`. -/
def orderFunction (op : CompareOp) (a b : Val) : Script (Option (Val × Array Val × Bool)) := do
  match ← eitherHandler a b op.event with
  | .nil =>
    if op != .lessEqual then return none
    match ← eitherHandler b a .less with
    | .nil => return none
    | f => return some (f, #[b, a], true)
  | f => return some (f, #[a, b], false)

def comparison (op : CompareOp) (negate : Bool) (dst : Nat) (a b : Val) : Script Outcome := do
  let answer (r : Bool) : Script Outcome := do
    initRegister dst (.bool (r != negate))
    goOn
  match op with
  | .equal =>
    if a.rawEqual b then answer true
    else match a, b with
      | .table _, .table _ =>
        match ← eitherHandler a b .equal with
        | .nil => answer false
        | f => callFrom f #[a, b] (.truth negate dst)
      | _, _ => answer false
  | .less | .lessEqual =>
    match if op == .less then a.less? b else a.lessEqual? b with
    | some r => answer r
    | none =>
      match ← orderFunction op a b with
      | none => failCompare a b
      | some (f, args, opposite) => callFrom f args (.truth (negate != opposite) dst)

/-- Concatenates registers from `dst` on, the last two first. -/
def concatenate (dst : Nat) (origins : Array Origin) : Nat → Script Outcome
  | 0 | 1 => do
    updateFrame fun f => { f with joining := none }
    goOn
  | n + 2 => do
    let a ← register (dst + n)
    let b ← register (dst + n + 1)
    match a.text?, b.text? with
    | some s, some t =>
      initRegister (dst + n) (.str (s ++ t))
      concatenate dst origins (n + 1)
    | s, _ =>
      match ← eitherHandler a b .concat with
      | .nil =>
        if s.isSome then failOperand b (origins.getD (n + 1) .unknown) "concatenate"
        else failOperand a (origins.getD n .unknown) "concatenate"
      | f => callFrom f #[a, b] (.piece dst (n + 1))

/-! ## Tables -/

def readEntry (dst : Nat) (t key : Val) (origin : Origin) : Script Outcome := do
  match ← lookIn t key origin with
  | .value v =>
    initRegister dst v
    goOn
  | .ask f subject => callFrom f #[subject, key] (.first dst)

def writeEntry (t key v : Val) (origin : Origin) : Script Outcome := do
  match ← storeIn t key v origin with
  | .done => goOn
  | .tell f subject => callFrom f #[subject, key, v] .drop

/-- Stores list items. -/
def storeItems (t : Val) (vs : Array Val) (skip : Nat) : Script Outcome := do
  match t with
  | .table id => updateTable id fun t =>
      (vs.foldl (fun (t, i) v => (Table.store t (.ofNat i) v, i + 1)) (t, skip + 1)).1
  | _ => pure ()
  goOn

/-- A table with room for items and entries. -/
def tableWithRoom (items entries : Nat) : Table :=
  let nodes := Table.emptyNodes entries
  { items := Array.replicate items .nil, limit := items, nodes, free := nodes.size }

/-- A function that shares variables with the running code. -/
def makeClosure (number : Nat) : Script Val := do
  let code := (← MonadState.get).codeAt number
  let cells ← code.captures.mapM fun
    | .localVar r => cellOf r
    | .upvalue i => upvalueCell i
  newFunction (.script number cells)

/-! ## Loops -/

/-- A part of a counting loop as a float. -/
def loopFloat (v : Val) (what : String) : Script Float := do
  match v.toNumber?.bind Val.number? with
  | some x => return x
  | none =>
    fail ("bad 'for' " ++ what ++ " (number expected, got "
      ++ (← MonadState.get).typeNameOf v ++ ")")

/-- The last integer of a counting loop; `none` if the loop has no turn. -/
def loopLimit (start step : Int64) (limit : Val) : Script (Option Int64) := do
  let bounded (last : Int64) : Option Int64 :=
    if step > 0 then (if start > last then none else some last)
    else if start < last then none else some last
  match limit.toNumber? with
  | some (.int i) => return bounded i
  | _ =>
    let x ← loopFloat limit "limit"
    let rounded := if step < 0 then x.ceil else x.floor
    match Number.toInteger? rounded with
    | some i => return bounded i
    | none =>
      if x > 0 then
        return if step < 0 then none else bounded Int64.maxValue
      else return if step > 0 then none else bounded Int64.minValue

/-- Whether a counter has not passed the limit. -/
def withinLimit (x step limit : Float) : Bool := if step > 0 then x ≤ limit else limit ≤ x

def prepareLoop (base exit : Nat) : Script Outcome := do
  let start ← register base
  let limit ← register (base + 1)
  let step ← register (base + 2)
  match start, step with
  | .int i, .int s =>
    if s == 0 then fail "'for' step is zero"
    match ← loopLimit i s limit with
    | none => goTo exit
    | some last =>
      -- the number of turns after the first, as an unsigned number
      let distance := if s > 0 then last.toUInt64 - i.toUInt64 else i.toUInt64 - last.toUInt64
      let size := if s > 0 then s.toUInt64 else (0 : UInt64) - s.toUInt64
      initRegister (base + 1) (.int (distance / size).toInt64)
      initRegister (base + 3) start
      goOn
  | _, _ =>
    let limit ← loopFloat limit "limit"
    let s ← loopFloat step "step"
    let x ← loopFloat start "initial value"
    if s == 0 then fail "'for' step is zero"
    if withinLimit x s limit then
      initRegister base (.num x)
      initRegister (base + 1) (.num limit)
      initRegister (base + 2) (.num s)
      initRegister (base + 3) (.num x)
      goOn
    else goTo exit

def continueLoop (base body : Nat) : Script Outcome := do
  match ← register base, ← register (base + 1), ← register (base + 2) with
  | .int i, .int left, .int s =>
    if left == 0 then goOn
    else
      initRegister base (.int (i + s))
      initRegister (base + 1) (.int (left - 1))
      initRegister (base + 3) (.int (i + s))
      goTo body
  | .num x, limit, step =>
    let s := step.number?.getD 1
    let x := x + s
    if withinLimit x s (limit.number?.getD 0) then
      initRegister base (.num x)
      initRegister (base + 3) (.num x)
      goTo body
    else goOn
  | _, _, _ => goOn

/-! ## Closing -/

/-- Marks the value of a register to be closed; `nil` and `false` need not be. -/
def markClose (r : Nat) (name : Bytes) : Script Outcome := do
  let v ← register r
  if v.isTrue then
    if ((← MonadState.get).handler v .close).isNil then
      failBytes (.ofString "variable '" ++ name ++ .ofString "' got a non-closable value")
    updateFrame fun f => { f with marked := (r, name) :: f.marked }
  goOn

/-- Closes the latest marked register from `r` on and repeats the instruction; answers `none` if there
is none left. -/
def closeNext (r : Nat) : Script (Option Outcome) := do
  match (← frame).marked with
  | (s, _) :: rest =>
    if s < r then return none
    updateFrame fun f => { f with marked := rest }
    let v ← register s
    let f := (← MonadState.get).handler v .close
    return some (← callFrom f #[v, .nil] .again)
  | [] => return none

/-- Closes all marked registers because of an error, which a new error replaces. -/
def closeAll : Nat → Val → Script Val
  | 0, e => return e
  | fuel + 1, e => do
    match (← frame).marked with
    | (s, _) :: rest =>
      updateFrame fun f => { f with marked := rest }
      let v ← register s
      let f := (← MonadState.get).handler v .close
      let e ← catching (do
          let _ ← call f #[v, e]
          return e)
        fun e => return e
      closeAll fuel e
    | [] => return e

/-! ## Instructions -/

/-- Calls a function in the place of the running one; only script functions can do without it. -/
def callLast (base : Nat) (args : Values) : Script Outcome := do
  let given ← values (base + 1) args
  let (id, args) ← resolveCallee nestingLimit (← register base) given
  match (← MonadState.get).functions.getD id (.native 0 #[]) with
  | .script code upvalues =>
    let isNested := (← frame).isNested
    popFrame
    pushFrame id code upvalues args isNested true
    return .running
  | _ => callFrom (.function id) args .opened

/-- Runs an instruction. -/
def perform : Instr → Script Outcome
  | .nop => goOn
  | .load dst src => do
    initRegister dst (← operand src)
    goOn
  | .loadNil dst count => do
    initRegisters dst count #[]
    goOn
  | .assign dst src => do
    assignRegister dst (← operand src)
    goOn
  | .getUpvalue dst i => do
    initRegister dst (← upvalue i)
    goOn
  | .setUpvalue i src => do
    let v ← operand src
    let c ← upvalueCell i
    modify fun m => { m with cells := m.cells.setIfInBounds c v }
    goOn
  | .getIndex dst table key origin => do readEntry dst (← place table) (← operand key) origin
  | .setIndex table key value origin => do
    writeEntry (← place table) (← operand key) (← operand value) origin
  | .self dst object key origin => do
    let o ← operand object
    initRegister (dst + 1) o
    readEntry dst o (← operand key) origin
  | .newTable dst items entries => do
    initRegister dst (← newTable (tableWithRoom items entries))
    goOn
  | .setList table items skip => do
    storeItems (← register table) (← values (table + 1) items) skip
  | .arith op dst left right leftOrigin rightOrigin => do
    arithmetic op dst (← operand left) (← operand right) leftOrigin rightOrigin
  | .unary op dst src origin => do unary op dst (← operand src) origin
  | .concat dst count origins => do concatenate dst origins ((← frame).joining.getD count)
  | .compare op negate dst left right => do
    comparison op negate dst (← operand left) (← operand right)
  | .closure dst code => do
    let f ← makeClosure code
    initRegister dst f
    goOn
  | .call base args results _ => do
    let given ← values (base + 1) args
    let landing := match results with
      | none => Landing.opened
      | some 0 => .drop
      | some 1 => .first base
      | some n => .fixed base n
    callFrom (← register base) given landing
  | .tailCall base args _ => callLast base args
  | .ret base vs => do
    match ← closeNext 0 with
    | some outcome => return outcome
    | none => leave (← values base vs)
  | .varargs dst count => do
    let extra := (← frame).varargs
    match count with
    | some n => initRegisters dst n extra
    | none => updateFrame fun f => { f with openValues := extra }
    goOn
  | .jump target => goTo target
  | .jumpIf cond src target => do
    if (← operand src).isTrue == cond then goTo target else goOn
  | .forPrepare base target => prepareLoop base target
  | .forNext base target => continueLoop base target
  | .loopCall base count => do
    let state ← register (base + 1)
    let control ← register (base + 2)
    callFrom (← register base) #[state, control] (.fixed (base + 4) count)
  | .loopNext base target => do
    match ← register (base + 4) with
    | .nil => goOn
    | v =>
      initRegister (base + 2) v
      goTo target
  | .markClose r name => markClose r name
  | .close r => do
    match ← closeNext r with
    | some outcome => return outcome
    | none => goOn

/-- Runs the present instruction. -/
def step : Script Outcome := do
  let f ← frame
  perform (f.code.instrs.getD f.pc (.ret 0 { count := 0 }))

/-! ## Errors -/

/-- The error that a function makes of an error. -/
def handled (handler : Option Val) (e : Val) : Script Val := do
  match handler with
  | none => return e
  | some f =>
    let rec attempt : Nat → Val → Script Val
      | 0, _ => return .ofString "error in error handling"
      | fuel + 1, e => do
        match ← catching (return Except.ok (← callOne f #[e])) fun e => return .error e with
        | .ok v => return v
        | .error e => attempt fuel e
    attempt nestingLimit e

/-- Whether a call catches the errors of the running coroutine. -/
def isGuarded : Script Bool := do
  let s := (← MonadState.get).stack
  let guards (ps : List Pending) : Bool := ps.any fun
    | .guarded _ _ => true
    | _ => false
  return guards s.above || s.callers.any fun a => guards a.above

/-- Keeps the active functions on record if nothing catches an error. -/
def noteTrace : Script Unit := do
  let m ← MonadState.get
  if m.trace.isNone && m.current = 0 && !(← isGuarded) then
    let own : Level := { callee := none, code := none }
    modify fun m => { m with trace := some (m.traceText (own :: m.stack.levels)) }

/-- Hands an error to what waits above an activation. -/
def unwindAbove (v : Val) : List Pending → Script (Option Outcome)
  | [] => do
    setAbove []
    return none
  | .native _ :: rest => unwindAbove v rest
  | .guarded _ handler :: rest => do
    setAbove rest
    let v ← handled handler v
    unnest
    return some (← deliver #[.bool false, v])
  | .entry :: rest => do
    setAbove rest
    raise v

/-- Hands an error to the innermost call that catches it; activations that have none end. -/
def unwind (v : Val) : Nat → Script Outcome
  | 0 => raise v
  | fuel + 1 => do
    match ← unwindAbove v (← MonadState.get).stack.above with
    | some outcome => return outcome
    | none =>
      let v ← closeAll (← frame).marked.length v
      popFrame
      unwind v fuel

end Script

end ScriptHost.TableScript
