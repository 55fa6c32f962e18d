import ScriptHost.TableScript.Builtin.Argument

/-!
# Functions on coroutines

* `Coroutines.group` — the functions of the group `coroutine`.
-/

namespace ScriptHost.TableScript.Builtin.Coroutines

open Text (Bytes)
open Script

/-! ## States -/

/-- What a script sees of how far a coroutine has come. -/
def statusWord : Progress → String
  | .fresh _ | .suspended _ => "suspended"
  | .running => "running"
  | .normal => "normal"
  | .dead _ => "dead"

/-- How far a coroutine has come. -/
def progress (id : Nat) : Script Progress :=
  return (← MonadState.get).threads.getD id (.dead none)

/-- A coroutine that has not begun. -/
def create (f : Val) : Script Nat := modifyGet fun m =>
  (m.threads.size, { m with threads := m.threads.push (.fresh f) })

/-- Goes on with a coroutine until it comes to rest. -/
def resume (id : Nat) (args : Array Val) : Script Rest := fun calls => calls.resume id args

/-- Ends a coroutine that does not run. -/
def finish (id : Nat) : Script Rest := fun calls => calls.finish id

/-- Whether a coroutine may be suspended. -/
def canSuspend (id : Nat) : Script Bool := do
  if id = 0 then return false
  if id = (← MonadState.get).current then return (← entryCount) ≤ 1
  return true

/-! ## Functions -/

/-- Goes on with the coroutine that the function keeps; an error is raised again, with its place if it
is a text. -/
def goOnWrapped (f : Nat) (args : Array Val) : Script (Array Val) := do
  match (← heldBy f).getD 0 .nil with
  | .thread id =>
    match ← resume id args with
    | .answered vs => return vs
    | .raised e =>
      let e ← match ← progress id with
        | .dead (some _) => match ← finish id with
          | .raised e => pure e
          | .answered _ => pure e
        | _ => pure e
      match e with
      | .str s => failCallBytes s
      | v => raise v
  | _ => return #[]

def close (args : Array Val) : Script (Array Val) := do
  let id ← threadArg args 0
  match ← progress id with
  | .running => failCall "cannot close a running coroutine"
  | .normal => failCall "cannot close a normal coroutine"
  | _ =>
    match ← finish id with
    | .answered _ => return #[.bool true]
    | .raised e => return #[.bool false, e]

/-- The functions on coroutines; `wrapped` is the number of `goOnWrapped`. -/
def group (wrapped : Nat) : FunctionGroup where
  name := "coroutine"
  natives := [
    ⟨"create", fun _ args => do return #[.thread (← create (← functionArg args 0))]⟩,
    ⟨"resume", fun _ args => do
      let id ← threadArg args 0
      match ← resume id (args.extract 1 args.size) with
      | .answered vs => return #[.bool true] ++ vs
      | .raised e => return #[.bool false, e]⟩,
    ⟨"running", fun _ _ => do
      let id := (← MonadState.get).current
      return #[.thread id, .bool (id == 0)]⟩,
    ⟨"status", fun _ args => do
      return #[.ofString (statusWord (← progress (← threadArg args 0)))]⟩,
    ⟨"wrap", fun _ args => do
      let id ← create (← functionArg args 0)
      return #[← holder wrapped #[.thread id]]⟩,
    ⟨"isyieldable", fun _ args => do
      let id ← match args.getD 0 .nil with
        | .thread id => pure id
        | _ => pure (← MonadState.get).current
      return truth (← canSuspend id)⟩,
    ⟨"close", fun _ args => close args⟩]

end ScriptHost.TableScript.Builtin.Coroutines
