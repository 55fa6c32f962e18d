import ScriptHost.Proofs.Overlooking
import ScriptHost.Proofs.World

/-!
# What was closed stays closed

A session that was closed, or dropped, is of no more use, and neither is any handle that came from it;
a handle that was given up is of no more use, and nothing else is touched by it.  The first is an
invariant of a history; the second compares two histories, one with the handle and one without.

* `World.Disposed` — no operation on a session, or on a handle of it, gets as far as an engine.
* `World.ClosedAt` — a session holds no engine, which no operation changes.
* `World.Without` — a world like another one in which a handle was given up.
* `World.disposal_law` — **the result**, for every engine, registry, host and history.
-/

namespace ScriptHost

variable {σ δ α : Type}

/-- How a handle refuses a call once its session is closed: a handle that was given up itself says so,
and an open one looks at the name before it looks for its session. -/
def Handle.refusal (handle : Handle δ) (what name : String) : HostError :=
  if handle.isClosed then .disposed "parsed handle"
  else if name.isEmpty then .invalidName what
  else .disposed "script session"

/-- The handle that an operation uses or closes. -/
def Operation.handle? : Operation → Option Nat
  | .invoke h _ _ | .get h _ | .closeHandle h => some h
  | _ => none

/-- What an operation on a handle answers that was given up. -/
def Operation.disposedAnswer : Operation → Outcome
  | .invoke _ _ _ | .get _ _ => .error (.disposed "parsed handle")
  | _ => .ok none

/-! ## Closed sessions -/

namespace Session

variable {s : Session σ} {host : Host}

theorem setNamedItem_closed (E : Engine σ δ) (h : s.engine = none) (name : String) (v : Value) :
    s.setNamedItem E name v host = (.error (if name.isEmpty then .invalidName "named item name"
      else .disposed "script session"), s, host) := by
  unfold Session.setNamedItem
  rw [h]
  split <;> rfl

theorem connect_closed (E : Engine σ δ) (h : s.engine = none)
    (use : σ → Context → Except HostError α × Session σ × Host) :
    s.connect E host use = (.error (.disposed "script session"), s, host) := by
  rw [Session.connect, h]

theorem close_closed (E : Engine σ δ) : (s.close E host).1.engine = none := by
  unfold Session.close
  cases h : s.engine with
  | none => rfl
  | some engine => rfl

end Session

theorem Handle.use_closed {s : Session σ} {host : Host} (h : s.engine = none) (handle : Handle δ)
    (what name : String) (call : δ → Action σ Value) :
    handle.use what s name host call = (.error (handle.refusal what name), s, host) := by
  unfold Handle.use Handle.refusal Handle.isClosed
  rw [h]
  cases handle.dispatch with
  | none => rfl
  | some d =>
    simp only [Option.isNone_some, Bool.false_eq_true, if_false]
    split <;> rfl

namespace World

/-- The session is of no more use.  Each call of it, and each call of a handle that came from it, fails
and leaves the world as it is; the answer is the same with any engine, for none is asked. -/
structure Disposed (w : World σ δ) (i : Nat) : Prop where
  setNamedItem : ∀ (E : Engine σ δ) (registry : Registry σ) (name : String) (v : Value),
    w.perform E registry (.setNamedItem i name v) = (.error (if name.isEmpty
      then .invalidName "named item name" else .disposed "script session"), w)
  eval : ∀ (E : Engine σ δ) (registry : Registry σ) (text : String),
    w.perform E registry (.eval i text) = (.error (.disposed "script session"), w)
  parseModule : ∀ (E : Engine σ δ) (registry : Registry σ) (text : String),
    w.perform E registry (.parseModule i text) = (.error (.disposed "script session"), w)
  invoke : ∀ (h : Nat) (handle : Handle δ), w.handles[h]? = some (i, handle) →
    ∀ (E : Engine σ δ) (registry : Registry σ) (name : String) (args : List Value),
      w.perform E registry (.invoke h name args)
        = (.error (handle.refusal "method name" name), w)
  get : ∀ (h : Nat) (handle : Handle δ), w.handles[h]? = some (i, handle) →
    ∀ (E : Engine σ δ) (registry : Registry σ) (name : String),
      w.perform E registry (.get h name) = (.error (handle.refusal "property name" name), w)

/-- A session was made under the number, and it holds no engine any more. -/
def ClosedAt (w : World σ δ) (i : Nat) : Prop :=
  ∃ s, w.sessions[i]? = some s ∧ s.engine = none

variable {w : World σ δ} {i : Nat} {E : Engine σ δ} {registry : Registry σ}

/-- A call that fails without a trace leaves the world as it is. -/
theorem onSession_refused {s : Session σ} {e : HostError}
    {call : Session σ → Host → Except HostError α × Session σ × Host} {value : α → Option Value}
    (hs : w.sessions[i]? = some s) (hcall : call s w.host = (.error e, s, w.host)) :
    w.onSession i call value = (.error e, w) := by
  simp only [onSession, hs, hcall, withSession_self hs]
  rfl

theorem onHandle_refused {h : Nat} {handle : Handle δ} {s : Session σ} {e : HostError}
    {call : Handle δ → Session σ → Host → Except HostError Value × Session σ × Host}
    (hh : w.handles[h]? = some (i, handle)) (hs : w.sessions[i]? = some s)
    (hcall : call handle s w.host = (.error e, s, w.host)) :
    w.onHandle h call = (.error e, w) := by
  simp only [onHandle, hh]
  exact onSession_refused hs hcall

theorem ClosedAt.disposed (h : w.ClosedAt i) : w.Disposed i := by
  obtain ⟨s, hs, hclosed⟩ := h
  constructor
  · intro E registry name v
    simp only [perform]
    refine onSession_refused hs ?_
    exact s.setNamedItem_closed E hclosed name v
  · intro E registry text
    simp only [perform]
    refine onSession_refused hs ?_
    exact s.connect_closed E hclosed _
  · intro E registry text
    simp only [perform, World.parseModule, hs, Session.parseModule, s.connect_closed E hclosed,
      withSession_self hs]
  · intro h handle hh E registry name args
    refine onHandle_refused hh hs ?_
    exact handle.use_closed hclosed _ name _
  · intro h handle hh E registry name
    refine onHandle_refused hh hs ?_
    exact handle.use_closed hclosed _ name _

/-- Only the session of that number could change, and a call leaves it closed. -/
theorem ClosedAt.withSession {k : Nat} {s : Session σ} (h : w.ClosedAt i) (host : Host)
    (hs : k = i → s.engine = none) : (w.withSession k s host).ClosedAt i := by
  obtain ⟨s', hs', hclosed⟩ := h
  by_cases hk : k = i
  · subst hk
    obtain ⟨hlt, -⟩ := List.getElem?_eq_some_iff.1 hs'
    exact ⟨s, List.getElem?_set_self hlt, hs rfl⟩
  · exact ⟨s', (List.getElem?_set_ne hk).trans hs', hclosed⟩

theorem ClosedAt.onSession {k : Nat} {value : α → Option Value}
    {call : Session σ → Host → Except HostError α × Session σ × Host} (h : w.ClosedAt i)
    (hcall : ∀ s, s.engine = none → (call s w.host).2.1.engine = none) :
    (w.onSession k call value).2.ClosedAt i := by
  unfold World.onSession
  cases hk : w.sessions[k]? with
  | none => exact h
  | some s =>
    refine h.withSession _ fun heq => hcall s ?_
    obtain ⟨s', hs', hclosed⟩ := h
    rw [heq, hs'] at hk
    exact Option.some.inj hk ▸ hclosed

theorem ClosedAt.onHandle {n : Nat} (h : w.ClosedAt i) (what name : String)
    (call : δ → Action σ Value) :
    (w.onHandle n fun handle s host => handle.use what s name host call).2.ClosedAt i := by
  unfold World.onHandle
  cases w.handles[n]? with
  | none => exact h
  | some pair =>
    refine h.onSession fun s hs => ?_
    simp only [pair.2.use_closed hs]
    exact hs

/-- No operation opens a session again. -/
theorem closedAt_perform (h : w.ClosedAt i) (op : Operation) :
    (w.perform E registry op).2.ClosedAt i := by
  cases op with
  | start language variant =>
    simp only [perform, World.start]
    obtain ⟨s, hs, hclosed⟩ := h
    split
    · exact ⟨s, hs, hclosed⟩
    · obtain ⟨hlt, -⟩ := List.getElem?_eq_some_iff.1 hs
      exact ⟨s, (List.getElem?_append_left hlt).trans hs, hclosed⟩
  | setNamedItem k name v =>
    refine h.onSession fun s hs => ?_
    rw [s.setNamedItem_closed E hs]
    exact hs
  | eval k text =>
    refine h.onSession fun s hs => ?_
    rw [Session.eval, s.connect_closed E hs]
    exact hs
  | parseModule k text =>
    simp only [perform, World.parseModule]
    cases hk : w.sessions[k]? with
    | none => exact h
    | some s =>
      have hstays : k = i → (s.parseModule E text w.host).2.1.engine = none := by
        rintro rfl
        obtain ⟨s', hs', hclosed⟩ := h
        rw [hs', Option.some.injEq] at hk
        rw [← hk, Session.parseModule, s'.connect_closed E hclosed]
        exact hclosed
      dsimp only
      revert hstays
      generalize s.parseModule E text w.host = r
      obtain ⟨e | handle, s', host⟩ := r <;> exact h.withSession host
  | invoke n name args => exact h.onHandle "method name" name fun d => E.invokeMethod d name args
  | get n name => exact h.onHandle "property name" name fun d => E.getProperty d name
  | closeHandle n =>
    simp only [perform, World.closeHandle]
    split <;> exact h
  | closeSession k =>
    simp only [perform, World.closeSession]
    split
    · exact h
    · exact h.withSession _ fun _ => Session.close_closed E
  | evalOnce language text items variant => exact h

theorem closedAt_run (h : w.ClosedAt i) (history : List Operation) :
    (w.run E registry history).ClosedAt i := by
  induction history generalizing w with
  | nil => exact h
  | cons op history ih => exact ih (closedAt_perform h op)

theorem closedAt_closeSession (hi : i < w.sessions.length) : (w.closeSession E i).ClosedAt i := by
  obtain ⟨s, hs⟩ : ∃ s, w.sessions[i]? = some s := ⟨_, List.getElem?_eq_getElem hi⟩
  simp only [World.closeSession, hs]
  exact ⟨_, List.getElem?_set_self hi, s.close_closed E⟩

/-! ## Handles that were given up -/

/-- Every handle came from a session. -/
def Rooted (w : World σ δ) : Prop := ∀ k handle, (k, handle) ∈ w.handles → k < w.sessions.length

theorem rooted_fresh (host : Host) : (fresh host : World σ δ).Rooted := by
  intro k handle h
  simp [fresh] at h

theorem Rooted.onSession {k : Nat} {value : α → Option Value}
    {call : Session σ → Host → Except HostError α × Session σ × Host} (h : w.Rooted) :
    (w.onSession k call value).2.Rooted := by
  unfold World.onSession
  split
  · exact h
  · intro k handle hmem
    rw [length_withSession]
    exact h k handle hmem

theorem rooted_perform (h : w.Rooted) (op : Operation) : (w.perform E registry op).2.Rooted := by
  cases op with
  | start language variant =>
    simp only [perform, World.start]
    split
    · exact h
    · intro k handle hmem
      rw [List.length_append]
      exact Nat.lt_add_right _ (h k handle hmem)
  | setNamedItem k name v => exact h.onSession
  | eval k text => exact h.onSession
  | parseModule k text =>
    simp only [perform, World.parseModule]
    cases hk : w.sessions[k]? with
    | none => exact h
    | some s =>
      dsimp only
      generalize s.parseModule E text w.host = r
      obtain ⟨e | made, s', host⟩ := r
      · intro n handle hmem
        exact Nat.lt_of_lt_of_eq (h n handle hmem) (w.length_withSession k s' host).symm
      · intro n handle hmem
        refine Nat.lt_of_lt_of_eq ?_ (w.length_withSession k s' host).symm
        rcases List.mem_append.1 hmem with hold | hnew
        · exact h n handle hold
        · obtain ⟨rfl, -⟩ := Prod.mk.inj (List.mem_singleton.1 hnew)
          exact (List.getElem?_eq_some_iff.1 hk).1
  | invoke n name args | get n name =>
    simp only [perform, World.onHandle]
    split
    · exact h
    · exact h.onSession
  | closeHandle n =>
    simp only [perform, World.closeHandle]
    cases hn : w.handles[n]? with
    | none => exact h
    | some pair =>
      intro k handle hmem
      rcases List.mem_or_eq_of_mem_set hmem with hold | hnew
      · exact h k handle hold
      · obtain ⟨rfl, -⟩ := Prod.mk.inj hnew
        exact h pair.1 pair.2 (List.mem_of_getElem? hn)
  | closeSession k =>
    simp only [perform, World.closeSession]
    split
    · exact h
    · intro n handle hmem
      exact Nat.lt_of_lt_of_eq (h n handle hmem) (w.length_withSession ..).symm
  | evalOnce language text items variant => exact h

theorem rooted_run (h : w.Rooted) (history : List Operation) :
    (w.run E registry history).Rooted := by
  induction history generalizing w with
  | nil => exact h
  | cons op history ih => exact ih (rooted_perform h op)

/-- A world, and the world in which a handle of it was given up: its hosts are related, and all else is
the same. -/
structure Without (same : Host → Host → Prop) (h k : Nat) (w w' : World σ δ) : Prop where
  sessions : w'.sessions = w.sessions
  handles : w'.handles = w.handles.set h (k, ⟨none⟩)
  made : h < w.handles.length
  from_session : k < w.sessions.length
  host : same w.host w'.host

variable {same : Host → Host → Prop} {h k : Nat} {w' : World σ δ}

theorem without_closeHandle (hrefl : ∀ host, same host host)
    (hrelease : ∀ d host, same host (E.release d ⟨none, host⟩).2.host) (hw : w.Rooted)
    (hh : h < w.handles.length) : ∃ k, Without same h k w (w.closeHandle E h) := by
  obtain ⟨⟨k, handle⟩, hget⟩ : ∃ pair, w.handles[h]? = some pair :=
    ⟨_, List.getElem?_eq_getElem hh⟩
  have hk := hw k handle (List.mem_of_getElem? hget)
  refine ⟨k, ?_⟩
  simp only [closeHandle, hget, Handle.close]
  obtain ⟨_ | d⟩ := handle
  · exact ⟨rfl, rfl, hh, hk, hrefl _⟩
  · exact ⟨rfl, rfl, hh, hk, hrelease d _⟩

namespace Without

theorem handle_self (hw : Without same h k w w') : w'.handles[h]? = some (k, ⟨none⟩) := by
  rw [hw.handles]
  exact List.getElem?_set_self hw.made

theorem handle_ne (hw : Without same h k w w') {n : Nat} (hn : n ≠ h) :
    w'.handles[n]? = w.handles[n]? := by
  rw [hw.handles]
  exact List.getElem?_set_ne hn.symm

/-- The handle refuses every call, and there is nothing more to give up. -/
theorem perform_self (hw : Without same h k w w') {op : Operation} (hop : op.handle? = some h) :
    w'.perform E registry op = (op.disposedAnswer, w') := by
  obtain ⟨s, hs⟩ : ∃ s, w'.sessions[k]? = some s :=
    ⟨_, List.getElem?_eq_getElem (hw.sessions ▸ hw.from_session)⟩
  cases op with
  | invoke n name args =>
    obtain rfl := Option.some.inj hop
    exact onHandle_refused hw.handle_self hs rfl
  | get n name =>
    obtain rfl := Option.some.inj hop
    exact onHandle_refused hw.handle_self hs rfl
  | closeHandle n =>
    obtain rfl := Option.some.inj hop
    simp only [perform, World.closeHandle, hw.handle_self, Handle.close,
      set_of_getElem? hw.handle_self]
    rfl
  | start | setNamedItem | eval | parseModule | closeSession | evalOnce => cases hop

theorem withSession (hw : Without same h k w w') {host host' : Host} (hhost : same host host')
    (n : Nat) (s : Session σ) : Without same h k (w.withSession n s host) (w'.withSession n s host') where
  sessions := by simp only [World.withSession, hw.sessions]
  handles := hw.handles
  made := hw.made
  from_session := Nat.lt_of_lt_of_eq hw.from_session (w.length_withSession n s host).symm
  host := hhost

theorem onSession (hw : Without same h k w w') {n : Nat} {value : α → Option Value}
    {call : Session σ → Host → Except HostError α × Session σ × Host}
    (hcall : ∀ s, Agreed (Agreed same) (call s w.host) (call s w'.host)) :
    Agreed (Without same h k) (w.onSession n call value) (w'.onSession n call value) := by
  unfold World.onSession
  rw [hw.sessions]
  cases w.sessions[n]? with
  | none => exact .mk hw
  | some s =>
    dsimp only
    refine Agreed.elim_state (hcall s) fun answer s host host' h => ?_
    exact .mk (hw.withSession h n s)

theorem onHandle (hw : Without same h k w w') {n : Nat} (hn : n ≠ h) (what name : String)
    {call : δ → Action σ Value} (hcall : ∀ d, Action.Overlooks same (call d)) :
    Agreed (Without same h k)
      (w.onHandle n fun handle s host => handle.use what s name host call)
      (w'.onHandle n fun handle s host => handle.use what s name host call) := by
  unfold World.onHandle
  rw [hw.handle_ne hn]
  cases w.handles[n]? with
  | none => exact .mk hw
  | some pair => exact hw.onSession fun s => pair.2.agreed_use s what name hcall hw.host

theorem start (hE : E.Overlooks same) (hregistry : registry.Overlooks same)
    (hw : Without same h k w w') (language : String) (variant : Variant) :
    Agreed (Without same h k) (w.start E registry language variant)
      (w'.start E registry language variant) := by
  unfold World.start
  refine Agreed.elim (Session.agreed_start hE hregistry language variant hw.host)
    fun answer host host' hhost => ?_
  cases answer with
  | error e => exact .mk ⟨hw.sessions, hw.handles, hw.made, hw.from_session, hhost⟩
  | ok s =>
    refine .mk ⟨congrArg (· ++ [s]) hw.sessions, hw.handles, hw.made, ?_, hhost⟩
    rw [List.length_append]
    exact Nat.lt_add_right _ hw.from_session

theorem parseModule (hE : E.Overlooks same) (hw : Without same h k w w') (n : Nat) (text : String) :
    Agreed (Without same h k) (w.parseModule E n text) (w'.parseModule E n text) := by
  unfold World.parseModule
  rw [hw.sessions]
  cases w.sessions[n]? with
  | none => exact .mk hw
  | some s =>
    dsimp only
    refine Agreed.elim_state (s.agreed_parseModule hE text hw.host) fun answer s host host' hhost => ?_
    cases answer with
    | error e => exact .mk (hw.withSession hhost n s)
    | ok handle =>
      obtain ⟨hsessions, -, -, hfrom, -⟩ := hw.withSession hhost n s
      refine .mk ⟨hsessions, ?_, ?_, hfrom, hhost⟩
      · rw [hw.handles, List.set_append_left _ _ hw.made]
      · rw [List.length_append]
        exact Nat.lt_add_right _ hw.made

theorem closeHandle (hE : E.Overlooks same) (hw : Without same h k w w') {n : Nat} (hn : n ≠ h) :
    Without same h k (w.closeHandle E n) (w'.closeHandle E n) := by
  unfold World.closeHandle
  rw [hw.handle_ne hn]
  cases w.handles[n]? with
  | none => exact hw
  | some pair =>
    dsimp only
    refine Agreed.elim (pair.2.agreed_close hE hw.host) fun handle host host' hhost => ?_
    refine ⟨hw.sessions, ?_, ?_, hw.from_session, hhost⟩
    · rw [hw.handles, List.set_comm _ _ hn]
    · rw [List.length_set]
      exact hw.made

theorem closeSession (hE : E.Overlooks same) (hw : Without same h k w w') (n : Nat) :
    Without same h k (w.closeSession E n) (w'.closeSession E n) := by
  unfold World.closeSession
  rw [hw.sessions]
  cases w.sessions[n]? with
  | none => exact hw
  | some s =>
    dsimp only
    refine Agreed.elim (s.agreed_close hE hw.host) fun s host host' hhost => ?_
    exact hw.withSession hhost n s

/-- Whatever does not concern the handle is answered as if it had not been given up. -/
theorem perform (hE : E.Overlooks same) (hregistry : registry.Overlooks same)
    (hw : Without same h k w w') {op : Operation} (hop : op.handle? ≠ some h) :
    Agreed (Without same h k) (w.perform E registry op) (w'.perform E registry op) := by
  have hhandle {n : Nat} (hn : some n ≠ some h) : n ≠ h := fun heq => hn (congrArg some heq)
  cases op with
  | start language variant => exact hw.start hE hregistry language variant
  | setNamedItem n name v =>
    exact hw.onSession fun s => s.agreed_setNamedItem hE name v hw.host
  | eval n text => exact hw.onSession fun s => s.agreed_eval hE text hw.host
  | parseModule n text => exact hw.parseModule hE n text
  | invoke n name args =>
    exact hw.onHandle (hhandle hop) "method name" name fun d => hE.invokeMethod d name args
  | get n name =>
    exact hw.onHandle (hhandle hop) "property name" name fun d => hE.getProperty d name
  | closeHandle n => exact .mk (hw.closeHandle hE (hhandle hop))
  | closeSession n => exact .mk (hw.closeSession hE n)
  | evalOnce language text items variant =>
    simp only [World.perform]
    refine Agreed.elim (agreed_evalOnce hE hregistry language text items variant hw.host)
      fun answer host host' hhost => ?_
    exact .mk ⟨hw.sessions, hw.handles, hw.made, hw.from_session, hhost⟩

end Without

/-- The operations of a history, each with its answer. -/
def answers (E : Engine σ δ) (registry : Registry σ) (w : World σ δ) :
    List Operation → List (Operation × Outcome)
  | [] => []
  | op :: history =>
    (op, (w.perform E registry op).1) :: (w.perform E registry op).2.answers E registry history

theorem Without.answers_self (hE : E.Overlooks same) (hregistry : registry.Overlooks same)
    (hw : Without same h k w w') (history : List Operation) :
    ∀ op outcome, (op, outcome) ∈ w'.answers E registry history → op.handle? = some h →
      outcome = op.disposedAnswer := by
  induction history generalizing w w' with
  | nil =>
    intro op outcome hmem
    cases hmem
  | cons op history ih =>
    intro op' outcome hmem hop'
    rw [answers] at hmem
    by_cases hop : op.handle? = some h
    · rw [hw.perform_self hop] at hmem
      rcases List.mem_cons.1 hmem with heq | hlater
      · cases heq
        rfl
      · exact ih hw op' outcome hlater hop'
    · rcases List.mem_cons.1 hmem with heq | hlater
      · cases heq
        exact absurd hop' hop
      · exact ih (hw.perform hE hregistry hop).rest op' outcome hlater hop'

theorem Without.answers_others (hE : E.Overlooks same) (hregistry : registry.Overlooks same)
    (hw : Without same h k w w') (history : List Operation) :
    (w'.answers E registry history).filter (fun line => line.1.handle? ≠ some h)
      = w.answers E registry (history.filter fun op => op.handle? ≠ some h) := by
  induction history generalizing w w' with
  | nil => rfl
  | cons op history ih =>
    by_cases hop : op.handle? = some h
    · have hself : w'.perform E registry op = (op.disposedAnswer, w') := hw.perform_self hop
      simp only [answers, hself]
      rw [List.filter_cons_of_neg (by simp [hop]), List.filter_cons_of_neg (by simp [hop])]
      exact ih hw
    · have hstep := hw.perform hE hregistry hop
      rw [List.filter_cons_of_pos (by simp [hop]), answers, answers,
        List.filter_cons_of_pos (by simp [hop]), hstep.answer, ih hstep.rest]

/-- **Disposal is permanent and local.**  Take engines of any behaviour, and any two histories, one
after the other, from an empty world.  If a session is closed between them, then after the second one it
is of no more use, nor is any handle that came from it.  If a handle is given up between them, and this
leaves behind a host that the engines cannot tell from what it was, then every operation of the second
history on that handle finds it closed, and every other one answers what it would have answered if the
handle had neither been given up nor used. -/
theorem disposal_law (E : Engine σ δ) (registry : Registry σ) (host : Host)
    (earlier later : List Operation) :
    let w := (fresh host).run E registry earlier
    (∀ i < w.sessions.length, ((w.closeSession E i).run E registry later).Disposed i) ∧
    ∀ same : Host → Host → Prop, (∀ host, same host host) → E.Overlooks same →
      registry.Overlooks same → (∀ d host, same host (E.release d ⟨none, host⟩).2.host) →
      ∀ h < w.handles.length,
        ((w.closeHandle E h).answers E registry later).filter (fun line => line.1.handle? ≠ some h)
            = w.answers E registry (later.filter fun op => op.handle? ≠ some h) ∧
          ∀ op outcome, (op, outcome) ∈ (w.closeHandle E h).answers E registry later →
            op.handle? = some h → outcome = op.disposedAnswer := by
  intro w
  refine ⟨fun i hi => (closedAt_run (closedAt_closeSession hi) later).disposed, ?_⟩
  intro same hrefl hE hregistry hrelease h hh
  have hrooted : w.Rooted := rooted_run (rooted_fresh host) earlier
  obtain ⟨k, hw⟩ := without_closeHandle hrefl hrelease hrooted hh
  exact ⟨hw.answers_others hE hregistry later, hw.answers_self hE hregistry later⟩

/-- A rehearsed engine puts on record that a dispatch was given up, and answers as before.  Of two handles
the first is closed: it refuses to read, and the other one reads as if only it had been asked. -/
theorem disposal_law_rehearsed :
    let E := Engine.Rehearsed.engine .required
    let registry : Registry EngineState := ⟨[("stub", Engine.Rehearsed.factory)]⟩
    let w := (fresh { replies := { getProperty := [{ answer := .ok (.text "a") }] } }).run E registry
      [.start "stub" .wide, .parseModule 0 "f", .parseModule 0 "g"]
    let later : List Operation := [.get 0 "x", .closeHandle 0, .get 1 "x"]
    w.sessions.length = 1 ∧ w.handles.length = 2 ∧ (∀ host : Host, host.SameButRecord host) ∧
      E.Overlooks Host.SameButRecord ∧ registry.Overlooks Host.SameButRecord ∧
      (∀ d (host : Host), host.SameButRecord (E.release d ⟨none, host⟩).2.host) ∧
      ((w.closeSession E 0).run E registry later).Disposed 0 ∧
      ((w.closeHandle E 0).answers E registry later).filter (fun line => line.1.handle? ≠ some 0)
        = w.answers E registry [.get 1 "x"] ∧
      ∀ outcome, (.get 0 "x", outcome) ∈ (w.closeHandle E 0).answers E registry later →
        outcome = .error (.disposed "parsed handle") := by
  intro E registry w later
  have hsessions : w.sessions.length = 1 := by decide +kernel
  have hhandles : w.handles.length = 2 := by decide +kernel
  have hE := Engine.Rehearsed.overlooks_record .required
  have hregistry : registry.Overlooks Host.SameButRecord := by
    intro language f hf host host' h
    simp only [registry, Registry.lookup, List.lookup_cons, List.lookup_nil] at hf
    split at hf
    · cases hf
      exact Engine.Rehearsed.agreed_factory h
    · cases hf
  have hrelease : ∀ d (host : Host), host.SameButRecord (E.release d ⟨none, host⟩).2.host :=
    fun _ host => host.sameButRecord_record .release
  obtain ⟨hclosed, hgiven⟩ := disposal_law E registry
    { replies := { getProperty := [{ answer := .ok (.text "a") }] } }
    [.start "stub" .wide, .parseModule 0 "f", .parseModule 0 "g"] later
  obtain ⟨hothers, hself⟩ := hgiven Host.SameButRecord Host.SameButRecord.refl hE hregistry hrelease 0
    (Nat.lt_of_lt_of_eq Nat.two_pos hhandles.symm)
  exact ⟨hsessions, hhandles, Host.SameButRecord.refl, hE, hregistry, hrelease,
    hclosed 0 (Nat.lt_of_lt_of_eq Nat.one_pos hsessions.symm), hothers,
    fun outcome hmem => hself _ outcome hmem rfl⟩

end World

end ScriptHost
