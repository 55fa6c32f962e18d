import ScriptHost.Engine

/-!
# Engines of several languages as one

The sum of two engines runs as the one or the other, as its state says.  A dispatch belongs to the
side that made it; on the other side it counts as given up.
-/

namespace ScriptHost.Engine

variable {σ τ δ ε α : Type}

/-- An action of the left side. -/
def onLeft (act : Action σ α) (s : σ) (c : Context) : Except NativeError α × (σ ⊕ τ) × Context :=
  let (answer, s, c) := act s c
  (answer, .inl s, c)

/-- An action of the right side. -/
def onRight (act : Action τ α) (s : τ) (c : Context) : Except NativeError α × (σ ⊕ τ) × Context :=
  let (answer, s, c) := act s c
  (answer, .inr s, c)

/-- An action of the side that the state is on. -/
def onEither (left : Action σ α) (right : Action τ α) : Action (σ ⊕ τ) α
  | .inl s, c => onLeft left s c
  | .inr s, c => onRight right s c

/-- A call of a dispatch. -/
def onDispatch (left : δ → Action σ α) (right : ε → Action τ α) (d : δ ⊕ ε) : Action (σ ⊕ τ) α :=
  fun s c => match d, s with
    | .inl d, .inl s => onLeft (left d) s c
    | .inr d, .inr s => onRight (right d) s c
    | _, s => (.error (.invalidState .closed), s, c)

/-- The two engines as one. -/
def sum (E : Engine σ δ) (F : Engine τ ε) : Engine (σ ⊕ τ) (δ ⊕ ε) where
  language := Sum.elim E.language F.language
  capabilities := Sum.elim E.capabilities F.capabilities
  state := Sum.elim E.state F.state
  setSite s c := match s with
    | .inl s => let (s, c) := E.setSite s c; (.inl s, c)
    | .inr s => let (s, c) := F.setSite s c; (.inr s, c)
  initNew := onEither E.initNew F.initNew
  setState target := onEither (E.setState target) (F.setState target)
  addNamedItem name := onEither (E.addNamedItem name) (F.addNamedItem name)
  parseText text flags := onEither (E.parseText text flags) (F.parseText text flags)
  assignment := Sum.elim E.assignment F.assignment
  globalDispatch s c := match s with
    | .inl s =>
      let (d, s, c) := E.globalDispatch s c
      (d.map .inl, .inl s, c)
    | .inr s =>
      let (d, s, c) := F.globalDispatch s c
      (d.map .inr, .inr s, c)
  close s c := match s with
    | .inl s => let (s, c) := E.close s c; (.inl s, c)
    | .inr s => let (s, c) := F.close s c; (.inr s, c)
  getProperty d name := onDispatch (E.getProperty · name) (F.getProperty · name) d
  invokeMethod d name args :=
    onDispatch (E.invokeMethod · name args) (F.invokeMethod · name args) d
  release d c := match d with
    | .inl d => let (d, c) := E.release d c; (.inl d, c)
    | .inr d => let (d, c) := F.release d c; (.inr d, c)

end ScriptHost.Engine
