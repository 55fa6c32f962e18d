import ScriptHost.Registry

/-!
# Engines that are kept account of

An audited engine is any engine with a number.  It answers as the engine itself does, and every call
of it, and of the dispatches that it hands out, is entered in the ledger of the host.  The engine has
no hand in the ledger: whatever it writes there is undone.

* `Numbered`, `Issued` — an engine and a dispatch with their numbers.
* `Audited.engine` — the operations.
* `Registry.audited` — a registry whose engines are audited from their making on.
-/

namespace ScriptHost

/-- An engine under audit. -/
structure Numbered (σ : Type) where
  number : Nat
  state : σ

/-- A dispatch of an engine under audit. -/
structure Issued (δ : Type) where
  engine : Nat
  number : Nat
  dispatch : δ

/-- The number for the next engine. -/
def LedgerEntry.nextEngine (l : List LedgerEntry) : Nat :=
  l.countP fun
    | .made _ => true
    | _ => false

/-- The number for the next dispatch. -/
def LedgerEntry.nextDispatch (l : List LedgerEntry) : Nat :=
  l.countP fun
    | .handedOut _ _ => true
    | _ => false

/-- The host with entries after those of a ledger. -/
def Host.enter (h : Host) (ledger entries : List LedgerEntry) : Host :=
  { h with ledger := ledger ++ entries }

/-- The context with entries after those of a ledger. -/
def Context.enter (c : Context) (ledger entries : List LedgerEntry) : Context :=
  { c with host := c.host.enter ledger entries }

namespace Audited

variable {σ δ α : Type}

/-- An action of the engine, with the entries that it makes. -/
def act (entries : Nat → List LedgerEntry) (action : Action σ α) : Action (Numbered σ) α :=
  fun s c =>
    let (answer, state, c') := action s.state c
    (answer, ⟨s.number, state⟩, c'.enter c.host.ledger (entries s.number))

/-- The operations of an engine under audit. -/
def engine (E : Engine σ δ) : Engine (Numbered σ) (Issued δ) where
  language s := E.language s.state
  capabilities s := E.capabilities s.state
  state s := E.state s.state
  setSite s c :=
    let (state, c') := E.setSite s.state c
    (⟨s.number, state⟩, c'.enter c.host.ledger [.called s.number])
  initNew := act (fun i => [.called i]) E.initNew
  setState target := act (fun i => [.called i]) (E.setState target)
  addNamedItem name := act (fun i => [.called i]) (E.addNamedItem name)
  parseText text flags := act (fun i => [.called i]) (E.parseText text flags)
  assignment s := E.assignment s.state
  globalDispatch s c :=
    let n := LedgerEntry.nextDispatch c.host.ledger
    match E.globalDispatch s.state c with
    | (.ok d, state, c') =>
      (.ok ⟨s.number, n, d⟩, ⟨s.number, state⟩,
        c'.enter c.host.ledger [.called s.number, .handedOut s.number n])
    | (.error e, state, c') =>
      (.error e, ⟨s.number, state⟩, c'.enter c.host.ledger [.called s.number])
  close s c :=
    let (state, c') := E.close s.state c
    (⟨s.number, state⟩, c'.enter c.host.ledger [.closed s.number])
  getProperty d name := act (fun _ => [.used d.engine d.number]) (E.getProperty d.dispatch name)
  invokeMethod d name args :=
    act (fun _ => [.used d.engine d.number]) (E.invokeMethod d.dispatch name args)
  release d c :=
    let (dispatch, c') := E.release d.dispatch c
    (⟨d.engine, d.number, dispatch⟩, c'.enter c.host.ledger [.released d.number])

/-- A factory whose engines are under audit. -/
def factory (f : Factory σ) : Factory (Numbered σ) := fun host =>
  match f host with
  | (.ok state, host') =>
    let n := LedgerEntry.nextEngine host.ledger
    (.ok ⟨n, state⟩, host'.enter host.ledger [.made n])
  | (.error e, host') => (.error e, host'.enter host.ledger [])

end Audited

/-- The registry with every engine under audit. -/
def Registry.audited {σ : Type} (r : Registry σ) : Registry (Numbered σ) :=
  ⟨r.entries.map fun (name, f) => (name, Audited.factory f)⟩

end ScriptHost
