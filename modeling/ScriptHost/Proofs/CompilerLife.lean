import ScriptHost.Proofs.Ownership
import ScriptHost.Template.Compiler

/-!
# The life of a compiler

A compiler owns two things, one inside the other: an engine, and a dispatch of it.  This file asks
anything of compilers over engines under audit, in any order, and proves that a compiler owns both while
it is ready and neither before or after.

* `Request`, `Compiler.serve`, `Compiler.serveAll` — what is asked of a compiler, and what comes of it.
* `Compiler.Kept` — the invariant: what the compiler holds accounts for the ledger.
* `Compiler.Holds` — the same in terms of the ledger: what is open is what the compiler holds.
* `Compiler.Follows` — what each request does in each state.
* `Compiler.life_cycle` — **the result**, for every engine, registry, host and list of requests.
-/

namespace ScriptHost.Template

open LedgerEntry

/-- What is asked of a compiler.  To drop it is to close it. -/
inductive Request where
  | load (language library : String)
  | configure (settings : Settings)
  | compile (text : String)
  | close

namespace Compiler

variable {σ δ : Type}

/-- A request: the answer, the compiler and the host after it. -/
def serve (E : Engine σ δ) (registry : Registry σ) (c : Compiler σ δ) (host : Host) :
    Request → Except HostError (Option String) × Compiler σ δ × Host
  | .load language library =>
    let (answer, c, host) := c.load E registry language library host
    (answer.map fun _ => none, c, host)
  | .configure settings =>
    let (answer, c, host) := c.configure E settings host
    (answer.map fun _ => none, c, host)
  | .compile text =>
    let (answer, c, host) := c.compile E text host
    (answer.map some, c, host)
  | .close => (.ok none, c.close E host)

/-- The compiler and the host after some requests, whatever the answers. -/
def serveAll (E : Engine σ δ) (registry : Registry σ) (requests : List Request) :
    Compiler σ δ × Host → Compiler σ δ × Host :=
  requests.foldl fun state request => (state.1.serve E registry state.2 request).2

/-- The number of the engine that a compiler holds. -/
def engine? : Compiler (Numbered σ) (Issued δ) → Option Nat
  | .ready _ s => s.number?
  | _ => none

/-- The number of the dispatch that a compiler holds. -/
def dispatch? : Compiler (Numbered σ) (Issued δ) → Option Nat
  | .ready handle _ => handle.number?
  | _ => none

variable {E : Engine σ δ} {registry : Registry σ} {c : Compiler (Numbered σ) (Issued δ)}
  {host host' : Host}

/-! ## The account -/

/-- The ledger is balanced by what the compiler holds, which is, while it is ready, an engine and a
dispatch that this engine handed out. -/
structure Kept (c : Compiler (Numbered σ) (Issued δ)) (host : Host) : Prop where
  balanced : Balanced host.ledger [c.engine?] [c.dispatch?]
  ready : ∀ handle s, c = .ready handle s → ∃ d, handle.dispatch = some d ∧
    s.number? = some d.engine ∧ .handedOut d.engine d.number ∈ host.ledger

/-- Only how often a number is held matters. -/
theorem balanced_of_counts {l : List LedgerEntry} {engines dispatches engines' dispatches' : List (Option Nat)}
    (h : Balanced l engines dispatches) (hengines : ∀ i, engines'.count (some i) = engines.count (some i))
    (hdispatches : ∀ d, dispatches'.count (some d) = dispatches.count (some d)) :
    Balanced l engines' dispatches' where
  orderly := h.orderly
  engines i := by rw [h.engines, hengines]
  dispatches d := by rw [h.dispatches, hdispatches]

theorem kept_of_not_ready (hc : c.isReady = false) (h : Balanced host.ledger [none] [none]) :
    Kept c host := by
  cases c with
  | uninitialized => exact ⟨h, fun _ _ heq => nomatch heq⟩
  | closed => exact ⟨h, fun _ _ heq => nomatch heq⟩
  | ready handle s => cases hc

theorem kept_start (host : Host) :
    Kept (.uninitialized : Compiler (Numbered σ) (Issued δ)) { host with ledger := [] } :=
  kept_of_not_ready rfl (balanced_of_counts .nil (fun _ => rfl) fun _ => rfl)

/-- A library that could not be loaded leaves no engine behind. -/
theorem kept_load_uninitialized (E : Engine σ δ) (registry : Registry σ) (language library : String)
    (h : Kept (.uninitialized : Compiler (Numbered σ) (Issued δ)) host) :
    Kept (load (Audited.engine E) registry.audited language library .uninitialized host).2.1
        (load (Audited.engine E) registry.audited language library .uninitialized host).2.2 ∧
      host.ledger <+:
        (load (Audited.engine E) registry.audited language library .uninitialized host).2.2.ledger := by
  have hfailed {host' : Host} (hr : host.Returned host') :
      Kept (.uninitialized : Compiler (Numbered σ) (Issued δ)) host' ∧
        host.ledger <+: host'.ledger := by
    obtain ⟨hgrows, hbalanced⟩ := h.balanced.returned hr
    exact ⟨kept_of_not_ready rfl hbalanced, hgrows⟩
  have hstart := Session.started_start (E := E) registry language .wide host
  unfold load
  dsimp only
  revert hstart
  generalize Session.start (Audited.engine E) registry.audited language .wide host = started
  intro hstart
  obtain ⟨e | s, host₁⟩ := started
  · exact hfailed hstart
  obtain ⟨hs, hbegun⟩ := hstart
  have hparsed := s.parsed_parseModule E host₁ library
  dsimp only
  revert hparsed
  generalize s.parseModule (Audited.engine E) library host₁ = parsed
  intro hparsed
  obtain ⟨e | handle, s', host₂⟩ := parsed
  · exact hfailed (Host.returned_close hs hbegun hparsed)
  obtain ⟨i, d, l, rfl, hi, hnumber, hvisited, hengine, hd, hledger⟩ := hparsed
  -- the engine is made, visited, and hands out the dispatch that stays
  have hmade := h.balanced.made.visited (by simp [hs]) (hbegun.trans hvisited)
  have hheld := hmade.handedOut (i := d.engine) (by simp [← hs, hi, hengine])
  have hentered : host₂.ledger = l ++ [.handedOut d.engine d.number] := by rw [hledger, hengine, hd]
  rw [← hd, ← hentered] at hheld
  have hbalanced : Balanced host₂.ledger [s'.number?] [some d.number] := by
    refine balanced_of_counts hheld (fun j => ?_) fun j => ?_
    · rw [hnumber, hs, List.count_append]
      simp [engine?]
    · rw [List.count_append]
      simp [dispatch?]
  refine ⟨⟨hbalanced, ?_⟩, ?_⟩
  · intro handle s heq
    cases heq
    refine ⟨d, rfl, by rw [hnumber, hi, hengine], ?_⟩
    simp [hentered]
  · rw [hledger]
    exact ((List.prefix_append _ _).trans (hbegun.trans hvisited).isPrefix).trans
      (List.prefix_append _ _)

/-- A call of the library visits the engine, and nobody lets go of anything. -/
theorem kept_invoke_ready (E : Engine σ δ) (name : String) (arg : Value) {handle : Handle (Issued δ)}
    {s : Session (Numbered σ)} (h : Kept (.ready handle s) host) :
    ∃ s' host', ((Compiler.ready handle s).invoke (Audited.engine E) name arg host).2
        = (.ready handle s', host') ∧ s'.number? = s.number? ∧
      Kept (.ready handle s') host' ∧ host.ledger <+: host'.ledger := by
  obtain ⟨d, hd, hs, hhanded⟩ := h.ready handle s rfl
  have hnumber : handle.number? = some d.number := by rw [Handle.number?, hd]; rfl
  have hheld : ∀ d', handle.dispatch = some d' → .handedOut d'.engine d'.number ∈ host.ledger ∧
      .released d'.number ∉ host.ledger ∧ ∀ i, s.number? = some i → d'.engine = i := by
    intro d' hd'
    obtain rfl : d = d' := Option.some.inj (hd.symm.trans hd')
    refine ⟨hhanded, h.balanced.released_notMem (by simp [dispatch?, hnumber]), fun i hi => ?_⟩
    exact Option.some.inj (hs.symm.trans hi)
  have hvisit := Handle.visit_use "method name" name (fun d => E.invokeMethod d name [arg]) hheld
  refine ⟨_, _, rfl, hvisit.number, ⟨?_, ?_⟩, hvisit.ledger.isPrefix⟩
  · have hbalanced := h.balanced.visited (by simp [engine?, hs]) hvisit.ledger
    refine balanced_of_counts hbalanced (fun i => ?_) fun _ => rfl
    exact congrArg (fun n => [n].count (some i)) hvisit.number
  · intro handle' s' heq
    cases heq
    exact ⟨d, hd, hvisit.number.trans hs, hvisit.ledger.isPrefix.subset hhanded⟩

/-- The dispatch is released, and then the engine is closed. -/
theorem kept_close_ready (E : Engine σ δ) {handle : Handle (Issued δ)} {s : Session (Numbered σ)}
    (h : Kept (.ready handle s) host) :
    ∃ i d host', (Compiler.ready handle s).close (Audited.engine E) host = (.closed, host') ∧
      s.number? = some i ∧ handle.number? = some d ∧
      host'.ledger = host.ledger ++ [.released d, .closed i] ∧
      Kept (.closed : Compiler (Numbered σ) (Issued δ)) host' := by
  obtain ⟨d, hd, hs, -⟩ := h.ready handle s rfl
  have hnumber : handle.number? = some d.number := by rw [Handle.number?, hd]; rfl
  have hreleased := (handle.close_enters E host).2
  have hclosed := (s.close_enters E (handle.close (Audited.engine E) host).2).2
  have hledger : (s.close (Audited.engine E) (handle.close (Audited.engine E) host).2).2.ledger
      = host.ledger ++ [.released d.number] ++ [.closed d.engine] := by
    rw [hclosed, hreleased, hs, hnumber]
    rfl
  refine ⟨d.engine, d.number,
    (s.close (Audited.engine E) (handle.close (Audited.engine E) host).2).2, rfl, hs, hnumber, ?_, ?_⟩
  · rw [hledger, List.append_assoc]
    rfl
  · refine kept_of_not_ready rfl ?_
    rw [hledger]
    have hbalanced := h.balanced
    rw [engine?, dispatch?, hs, hnumber] at hbalanced
    exact (hbalanced.released (k := 0) rfl).closed (k := 0) rfl

/-! ## Requests -/

/-- The session starts, and the library is parsed in it. -/
def Loads (E : Engine σ δ) (registry : Registry σ) (language library : String) (host : Host) : Prop :=
  ∃ s host₁ handle s' host₂, Session.start E registry language .wide host = (.ok s, host₁) ∧
    s.parseModule E library host₁ = (.ok handle, s', host₂)

/-- What a request does.  A compiler in its first state becomes ready if the library loads, and stays as it
is otherwise, so that it can be tried again; a ready one stays ready, with the same engine and the same
dispatch, until it is closed, which releases the dispatch and then closes the engine.  Everything else is
refused, or in the case of closing ignored, and nothing is called for it. -/
def Follows (E : Engine σ δ) (registry : Registry σ) (c : Compiler (Numbered σ) (Issued δ)) (host : Host)
    (request : Request) (answer : Except HostError (Option String))
    (c' : Compiler (Numbered σ) (Issued δ)) (host' : Host) : Prop :=
  match c, request with
  | .uninitialized, .load language library =>
    (answer = .ok none ↔ Loads (Audited.engine E) registry.audited language library host) ∧
      (answer = .ok none → c'.isReady) ∧ (answer ≠ .ok none → c' = .uninitialized)
  | .ready handle s, .configure _ | .ready handle s, .compile _ =>
    ∃ s', c' = .ready handle s' ∧ s'.number? = s.number?
  | .ready handle s, .close => answer = .ok none ∧ c' = .closed ∧ ∃ i d, s.number? = some i ∧
      handle.number? = some d ∧ host'.ledger = host.ledger ++ [.released d, .closed i]
  | _, .close => answer = .ok none ∧ c' = .closed ∧ host' = host
  | _, _ => answer = .error notOpen ∧ c' = c ∧ host' = host

/-- What is proved of every request. -/
structure Sound (E : Engine σ δ) (registry : Registry σ) (c : Compiler (Numbered σ) (Issued δ)) (host : Host)
    (request : Request)
    (result : Except HostError (Option String) × Compiler (Numbered σ) (Issued δ) × Host) : Prop where
  kept : Kept result.2.1 result.2.2
  grows : host.ledger <+: result.2.2.ledger
  follows : c.Follows E registry host request result.1 result.2.1 result.2.2

theorem follows_load (E : Engine σ δ) (registry : Registry σ) (language library : String) (host : Host) :
    Follows E registry .uninitialized host (.load language library)
      (serve (Audited.engine E) registry.audited .uninitialized host (.load language library)).1
      (serve (Audited.engine E) registry.audited .uninitialized host (.load language library)).2.1
      (serve (Audited.engine E) registry.audited .uninitialized host (.load language library)).2.2 := by
  simp only [Follows, Loads, serve, load]
  rcases hstart : Session.start (Audited.engine E) registry.audited language .wide host with ⟨e | s, host₁⟩
  · simp [Except.map]
  rcases hparse : s.parseModule (Audited.engine E) library host₁ with ⟨e | handle, s', host₂⟩
  · simp [Except.map, hparse]
  · simp [Except.map, hparse, isReady]

theorem sound_serve (E : Engine σ δ) (registry : Registry σ) (h : Kept c host) (request : Request) :
    c.Sound E registry host request (c.serve (Audited.engine E) registry.audited host request) := by
  cases c with
  | uninitialized =>
    cases request with
    | load language library =>
      obtain ⟨hkept, hgrows⟩ := kept_load_uninitialized E registry language library h
      exact ⟨hkept, hgrows, follows_load E registry language library host⟩
    | configure settings => exact ⟨h, List.prefix_rfl, rfl, rfl, rfl⟩
    | compile text => exact ⟨h, List.prefix_rfl, rfl, rfl, rfl⟩
    | close => exact ⟨kept_of_not_ready rfl h.balanced, List.prefix_rfl, rfl, rfl, rfl⟩
  | closed =>
    cases request with
    | load language library => exact ⟨h, List.prefix_rfl, rfl, rfl, rfl⟩
    | configure settings => exact ⟨h, List.prefix_rfl, rfl, rfl, rfl⟩
    | compile text => exact ⟨h, List.prefix_rfl, rfl, rfl, rfl⟩
    | close => exact ⟨h, List.prefix_rfl, rfl, rfl, rfl⟩
  | ready handle s =>
    cases request with
    | load language library => exact ⟨h, List.prefix_rfl, rfl, rfl, rfl⟩
    | configure settings =>
      obtain ⟨s', host', hinvoke, hnumber, hkept, hgrows⟩ :=
        kept_invoke_ready E "setTemplateSettings" settings.toValue h
      have hserve : (serve (Audited.engine E) registry.audited (.ready handle s) host (.configure settings)).2
          = (.ready handle s', host') := hinvoke
      refine ⟨?_, ?_, ?_⟩
      · rw [hserve]
        exact hkept
      · rw [hserve]
        exact hgrows
      · rw [hserve]
        exact ⟨s', rfl, hnumber⟩
    | compile text =>
      obtain ⟨s', host', hinvoke, hnumber, hkept, hgrows⟩ := kept_invoke_ready E "compile" (.text text) h
      have hserve : (serve (Audited.engine E) registry.audited (.ready handle s) host (.compile text)).2
          = (.ready handle s', host') := hinvoke
      refine ⟨?_, ?_, ?_⟩
      · rw [hserve]
        exact hkept
      · rw [hserve]
        exact hgrows
      · rw [hserve]
        exact ⟨s', rfl, hnumber⟩
    | close =>
      obtain ⟨i, d, host', hclose, hs, hd, hledger, hkept⟩ := kept_close_ready E h
      have hserve : serve (Audited.engine E) registry.audited (.ready handle s) host .close
          = (.ok none, .closed, host') := congrArg (Prod.mk _) hclose
      rw [hserve]
      exact ⟨hkept, hledger ▸ List.prefix_append _ _, rfl, rfl, i, d, hs, hd, hledger⟩

theorem kept_serveAll (E : Engine σ δ) (registry : Registry σ) (requests : List Request) (h : Kept c host) :
    Kept (serveAll (Audited.engine E) registry.audited requests (c, host)).1
      (serveAll (Audited.engine E) registry.audited requests (c, host)).2 := by
  induction requests generalizing c host with
  | nil => exact h
  | cons request rest ih => exact ih (sound_serve E registry h request).kept

/-! ## What is open -/

/-- A ledger in order in which nothing is open but what the compiler holds; it holds an engine and a
dispatch of this engine while it is ready, and nothing else. -/
structure Holds (c : Compiler (Numbered σ) (Issued δ)) (l : List LedgerEntry) : Prop where
  orderly : Orderly l
  engine : ∀ i, Live l i ↔ c.engine? = some i
  dispatch : ∀ d, Unreleased l d ↔ c.dispatch? = some d
  ready : c.isReady = true → ∃ i d, c.engine? = some i ∧ c.dispatch? = some d ∧ .handedOut i d ∈ l
  not_ready : c.isReady = false → c.engine? = none ∧ c.dispatch? = none

theorem Kept.holds (h : Kept c host) : c.Holds host.ledger where
  orderly := h.balanced.orderly
  engine i := by rw [h.balanced.live_iff, List.mem_singleton, eq_comm]
  dispatch d := by rw [h.balanced.unreleased_iff, List.mem_singleton, eq_comm]
  ready hready := by
    cases c with
    | uninitialized => cases hready
    | closed => cases hready
    | ready handle s =>
      obtain ⟨d, hd, hs, hhanded⟩ := h.ready handle s rfl
      refine ⟨d.engine, d.number, hs, ?_, hhanded⟩
      rw [dispatch?, Handle.number?, hd]
      rfl
  not_ready hready := by
    cases c with
    | uninitialized => exact ⟨rfl, rfl⟩
    | closed => exact ⟨rfl, rfl⟩
    | ready handle s => cases hready

/-- **The life of a compiler.**  Take engines of any behaviour, a host, any list of requests to a new
compiler, and one request more.  Before and after it, an engine and a dispatch of it are open exactly while
the compiler is ready, and nothing else is: whatever was made for a library that did not load is closed.
The request itself takes the compiler from its first state to readiness or leaves it there, from readiness
nowhere but to the end, and from the end nowhere. -/
theorem life_cycle (E : Engine σ δ) (registry : Registry σ) (host : Host) (requests : List Request)
    (request : Request) :
    let before := serveAll (Audited.engine E) registry.audited requests
      (.uninitialized, { host with ledger := [] })
    let result := before.1.serve (Audited.engine E) registry.audited before.2 request
    before.1.Holds before.2.ledger ∧ result.2.1.Holds result.2.2.ledger ∧
      before.2.ledger <+: result.2.2.ledger ∧
      before.1.Follows E registry before.2 request result.1 result.2.1 result.2.2 := by
  intro before result
  have hbefore : Kept before.1 before.2 := kept_serveAll E registry requests (kept_start host)
  obtain ⟨hkept, hgrows, hfollows⟩ := sound_serve E registry hbefore request
  exact ⟨hbefore.holds, hkept.holds, hgrows, hfollows⟩

end Compiler

end ScriptHost.Template
