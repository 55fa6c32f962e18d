import ScriptHost.Proofs.Simulation
import Mathlib.Data.List.Induction

/-!
# Announced names

An engine over an interpreter is told names whose values its site holds, and makes global variables of
them when the next text is parsed.  In which order, when again, and what if the site does not hold one?
The answer is read off what the engine does: a history of requests comes to a list of deeds, and which
names wait to be bound, and for how long, is a question about that list alone.

* `Request`, `Deed` — what is asked of an engine and its site, and what is done about it.
* `Deed.age` — for how many deeds a name has been waiting.
* `Interpreted.deeds`, `Interpreted.after` — the deeds of a history, and what is there after it.
* `Interpreted.KeepsNames` — what the names that wait have to do with the deeds.
* `Interpreted.keepsNames` — **every history keeps to it**, whatever the interpreter does.
-/

namespace ScriptHost

/-- What a host asks of an open engine and of its site. -/
inductive Request where
  /-- To register an item with the site. -/
  | insert (name : String) (v : Value)
  /-- To announce a name to the engine. -/
  | announce (name : String)
  | parse (text : String) (flags : ParseFlags)
  /-- To prepare an empty script state. -/
  | reset

/-- What an engine does about names, and which texts it runs. -/
inductive Deed where
  | announced (name : String)
  /-- All announcements are forgotten. -/
  | emptied
  /-- A name becomes a global variable. -/
  | bound (name : String) (v : Value)
  /-- A name does not become a global variable, because the interpreter fails. -/
  | balked (name : String) (v : Value)
  | ran (text : String) (flags : ParseFlags)

/-! ## Waiting -/

namespace Deed

/-- Whether a deed ends the waiting of a name. -/
def settles (n : String) : Deed → Bool
  | .emptied => true
  | .bound m _ => m == n
  | _ => false

/-- Whether a deed is an announcement of a name. -/
def announces (n : String) : Deed → Bool
  | .announced m => m == n
  | _ => false

/-- The deeds since a name was last bound, or all announcements were last forgotten. -/
def sinceSettled (n : String) (ds : List Deed) : List Deed :=
  (ds.reverse.takeWhile (!·.settles n)).reverse

/-- For how many deeds a name has been waiting: those from its first announcement on since it was last
bound, or all announcements were last forgotten.  A name that does not wait has the age 0. -/
def age (n : String) (ds : List Deed) : Nat :=
  ((sinceSettled n ds).dropWhile (!·.announces n)).length

/-- The names that wait after one more deed. -/
def pend (names : List String) : Deed → List String
  | .announced n => if n ∈ names then names else names ++ [n]
  | .emptied => []
  | .bound n _ => names.erase n
  | .balked _ _ | .ran _ _ => names

@[simp] theorem age_nil (n : String) : age n [] = 0 := rfl

/-- A name grows older with every deed, from its announcement on until it is settled. -/
theorem age_concat (n : String) (ds : List Deed) (d : Deed) :
    age n (ds ++ [d]) = if d.settles n then 0
      else if 0 < age n ds ∨ d.announces n then age n ds + 1 else 0 := by
  unfold age sinceSettled
  rw [List.reverse_append, List.reverse_singleton, List.singleton_append, List.takeWhile_cons]
  cases hsettles : d.settles n with
  | true => rfl
  | false =>
    simp only [Bool.not_false, if_true, List.reverse_cons, Bool.false_eq_true, if_false]
    generalize (ds.reverse.takeWhile (!·.settles n)).reverse = since
    rw [List.dropWhile_append]
    by_cases hempty : since.dropWhile (!·.announces n) = []
    · cases hannounces : d.announces n with
      | true => simp [hempty, hannounces]
      | false => simp [hempty, hannounces]
    · have hage : 0 < (since.dropWhile (!·.announces n)).length := List.length_pos_iff.mpr hempty
      simp [hempty]

/-- What the names that wait have to do with some deeds: each of them once, in the order of their ages,
which starts from the first announcement. -/
structure Line (ds : List Deed) (names : List String) : Prop where
  nodup : names.Nodup
  mem_iff : ∀ n, n ∈ names ↔ 0 < age n ds
  order : names.Pairwise fun m n => age n ds < age m ds

theorem Line.nil : Line [] [] := ⟨List.nodup_nil, by simp, .nil⟩

theorem Line.announced {ds : List Deed} {names : List String} (h : Line ds names) (n : String) :
    Line (ds ++ [.announced n]) (pend names (.announced n)) := by
  have hage (m : String) : age m (ds ++ [.announced n])
      = if 0 < age m ds ∨ n = m then age m ds + 1 else 0 := by
    simp [age_concat, settles, announces]
  have hwaiting {m : String} (hm : m ∈ names) : age m (ds ++ [.announced n]) = age m ds + 1 := by
    rw [hage, if_pos (.inl ((h.mem_iff m).mp hm))]
  have horder : names.Pairwise fun m m' => age m' (ds ++ [.announced n]) < age m (ds ++ [.announced n]) := by
    refine h.order.imp_of_mem fun hm hm' hlt => ?_
    rw [hwaiting hm, hwaiting hm']
    exact Nat.succ_lt_succ hlt
  simp only [pend]
  by_cases hn : n ∈ names
  · rw [if_pos hn]
    refine ⟨h.nodup, fun m => ?_, horder⟩
    have hpos := (h.mem_iff n).mp hn
    rw [h.mem_iff, hage]
    grind
  · rw [if_neg hn]
    have hzero : age n ds = 0 := by
      have := mt (h.mem_iff n).mpr hn
      omega
    refine ⟨List.nodup_append.mpr ⟨h.nodup, List.pairwise_singleton _ _, ?_⟩, fun m => ?_, ?_⟩
    · rintro m hm _ hm' rfl
      exact hn (List.mem_singleton.mp hm' ▸ hm)
    · rw [List.mem_append, List.mem_singleton, h.mem_iff, hage]
      grind
    · refine List.pairwise_append.mpr ⟨horder, List.pairwise_singleton _ _, ?_⟩
      intro m hm m' hm'
      obtain rfl := List.mem_singleton.mp hm'
      have hpos := (h.mem_iff m).mp hm
      rw [hwaiting hm, hage, if_pos (.inr rfl), hzero]
      omega

theorem Line.bound {ds : List Deed} {names : List String} (h : Line ds names) (n : String) (v : Value) :
    Line (ds ++ [.bound n v]) (pend names (.bound n v)) := by
  have hage (m : String) : age m (ds ++ [.bound n v])
      = if n = m then 0 else if 0 < age m ds then age m ds + 1 else 0 := by
    simp [age_concat, settles, announces]
  simp only [pend]
  refine ⟨h.nodup.erase n, fun m => ?_, ?_⟩
  · rw [h.nodup.mem_erase_iff, h.mem_iff, hage]
    grind
  · refine (h.order.sublist List.erase_sublist).imp_of_mem fun {m m'} hm hm' hlt => ?_
    rw [h.nodup.mem_erase_iff, h.mem_iff] at hm hm'
    rw [hage, hage, if_neg (Ne.symm hm.1), if_neg (Ne.symm hm'.1), if_pos hm.2, if_pos hm'.2]
    exact Nat.succ_lt_succ hlt

/-- A deed that concerns no name makes all that wait older. -/
theorem Line.idle {ds : List Deed} {names : List String} (h : Line ds names) {d : Deed}
    (hd : ∀ n, d.settles n = false ∧ d.announces n = false) : Line (ds ++ [d]) names := by
  have hage (m : String) : age m (ds ++ [d]) = if 0 < age m ds then age m ds + 1 else 0 := by
    simp [age_concat, hd m]
  refine ⟨h.nodup, fun m => ?_, h.order.imp_of_mem fun hm hm' hlt => ?_⟩
  · rw [h.mem_iff, hage]
    grind
  · rw [hage, hage, if_pos ((h.mem_iff _).mp hm), if_pos ((h.mem_iff _).mp hm')]
    exact Nat.succ_lt_succ hlt

/-- One more deed, and the names that then wait. -/
theorem Line.concat {ds : List Deed} {names : List String} (h : Line ds names) (d : Deed) :
    Line (ds ++ [d]) (pend names d) := by
  cases d with
  | announced n => exact h.announced n
  | emptied => exact ⟨List.nodup_nil, fun n => by simp [pend, age_concat, settles], .nil⟩
  | bound n v => exact h.bound n v
  | balked n v => exact h.idle fun _ => ⟨rfl, rfl⟩
  | ran text flags => exact h.idle fun _ => ⟨rfl, rfl⟩

/-- Names are bound only while they wait, among deeds that come after others. -/
def Timely (ds more : List Deed) : Prop :=
  ∀ before n v later, more = before ++ .bound n v :: later → 0 < age n (ds ++ before)

theorem Timely.nil (ds : List Deed) : Timely ds [] := by
  intro before n v later h
  cases before <;> cases h

theorem Timely.cons {ds more : List Deed} {d : Deed} (hd : ∀ n v, d = .bound n v → 0 < age n ds)
    (h : Timely (ds ++ [d]) more) : Timely ds (d :: more) := by
  intro before n v later heq
  cases before with
  | nil =>
    rw [List.append_nil]
    exact hd n v (List.cons.inj heq).1
  | cons d' before =>
    obtain ⟨rfl, hmore⟩ := List.cons.inj heq
    rw [List.append_cons]
    exact h before n v later hmore

theorem Timely.append {ds more last : List Deed} (h : Timely ds more) (h' : Timely (ds ++ more) last) :
    Timely ds (more ++ last) := by
  induction more generalizing ds with
  | nil => rwa [List.append_nil] at h'
  | cons d more ih =>
    refine .cons (fun n v hd => ?_) (ih (fun before n v later heq => ?_) ?_)
    · have hfirst := h [] n v more (by rw [hd]; rfl)
      rwa [List.append_nil] at hfirst
    · have hlater := h (d :: before) n v later (by rw [heq]; rfl)
      rwa [List.append_cons] at hlater
    · rwa [List.append_cons] at h'

theorem line_foldl (ds : List Deed) : Line ds (ds.foldl pend []) := by
  induction ds using List.reverseRecOn with
  | nil => exact .nil
  | append_singleton ds d ih =>
    rw [List.foldl_append, List.foldl_cons, List.foldl_nil]
    exact ih.concat d

end Deed

/-! ## Engines over an interpreter -/

namespace Interpreted

variable {μ χ : Type} (I : Interpreter μ χ)

/-- What is done about names while they are bound to what a site holds, one after the other. -/
def walk (site : Site) : List String → μ → Host → List Deed
  | [], _, _ => []
  | name :: rest, scripts, host => match site.item? name with
    | none => []
    | some v => match I.bind name v scripts host with
      | (.error _, _, _) => [.balked name v]
      | (.ok _, scripts, host) => .bound name v :: walk site rest scripts host

/-- The names bound to what a site holds, all of them. -/
def boundTo (site : Site) (names : List String) : List Deed :=
  names.filterMap fun n => (site.item? n).map (.bound n)

/-- What a deed does to an interpreter and to the host. -/
def act : μ × Host → Deed → μ × Host
  | (scripts, host), .bound n v | (scripts, host), .balked n v => (I.bind n v scripts host).2
  | (scripts, host), .ran text flags =>
    if flags.expression then (I.evaluate text scripts host).2 else (I.execute text scripts host).2
  | e, _ => e

/-- An engine and its context after a request. -/
def afterRequest (e : State μ × Context) : Request → State μ × Context
  | .insert name v => (e.1, e.2.tell (·.insert name v))
  | .announce name => ((engine I).addNamedItem name e.1 e.2).2
  | .parse text flags => ((engine I).parseText text flags e.1 e.2).2
  | .reset => ((engine I).initNew e.1 e.2).2

/-- The deeds of a request, made of an open engine that has a site. -/
def deedsOf (e : State μ × Context) : Request → List Deed
  | .insert _ _ => []
  | .announce name => [.announced name]
  | .reset => [.emptied]
  | .parse text flags => match e.2.site with
    | none => [.ran text flags]
    | some site => walk I site e.1.pending e.1.scripts e.2.host ++ match bindPending I e.1 e.2 with
      | (.ok _, _, _) => [.ran text flags]
      | (.error _, _, _) => []

/-- An engine and its context after a history of requests. -/
def after (e : State μ × Context) (history : List Request) : State μ × Context :=
  history.foldl (afterRequest I) e

/-- The deeds of a history. -/
def deeds (e : State μ × Context) : List Request → List Deed
  | [] => []
  | r :: rest => deedsOf I e r ++ deeds (afterRequest I e r) rest

/-- A new engine with a site. -/
def installed (site : Site) (host : Host) : State μ × Context :=
  (engine I).setSite (.new I) ⟨some site, host⟩

variable {I}

/-! ### Binding -/

theorem bindNames_eq (site : Site) (names : List String) (scripts : μ) (host : Host) :
    (bindNames I site names scripts host).2
      = ((walk I site names scripts host).foldl Deed.pend names,
          (walk I site names scripts host).foldl (act I) (scripts, host)) := by
  induction names generalizing scripts host with
  | nil => rfl
  | cons name rest ih =>
    simp only [bindNames, walk]
    cases site.item? name with
    | none => rfl
    | some v =>
      rcases hbind : I.bind name v scripts host with ⟨e | u, scripts', host'⟩
      · simp [hbind, act, Deed.pend]
      · simp [hbind, act, Deed.pend, ih]

/-- A walk up to the first name that the site does not hold. -/
theorem bindNames_stops (site : Site) {before : List String} (hbefore : ∀ m ∈ before, (site.item? m).isSome)
    {n : String} (hn : site.item? n = none) (rest : List String) {scripts : μ} {host : Host}
    (hbalk : ∀ m v, .balked m v ∉ walk I site (before ++ n :: rest) scripts host) :
    walk I site (before ++ n :: rest) scripts host = boundTo site before
      ∧ (bindNames I site (before ++ n :: rest) scripts host).1 = .error (.unknownName n)
      ∧ (bindNames I site (before ++ n :: rest) scripts host).2.1 = n :: rest := by
  induction before generalizing scripts host with
  | nil => simp [walk, bindNames, boundTo, hn]
  | cons m before ih =>
    obtain ⟨v, hv⟩ := Option.isSome_iff_exists.mp (hbefore m List.mem_cons_self)
    simp only [List.cons_append, walk, bindNames, hv] at hbalk ⊢
    rcases hbind : I.bind m v scripts host with ⟨e | u, scripts', host'⟩
    · simp [hbind] at hbalk
    · simp only [hbind, List.mem_cons, not_or] at hbalk ⊢
      obtain ⟨hwalk, hanswer⟩ := ih (fun k hk => hbefore k (List.mem_cons_of_mem m hk))
        fun k w => (hbalk k w).2
      refine ⟨?_, hanswer⟩
      rw [hwalk]
      simp [boundTo, hv]

/-- A walk over names that the site holds, all of them. -/
theorem bindNames_runs (site : Site) {names : List String} (hnames : ∀ m ∈ names, (site.item? m).isSome)
    {scripts : μ} {host : Host} (hbalk : ∀ m v, .balked m v ∉ walk I site names scripts host) :
    walk I site names scripts host = boundTo site names
      ∧ (bindNames I site names scripts host).1 = .ok ()
      ∧ (bindNames I site names scripts host).2.1 = [] := by
  induction names generalizing scripts host with
  | nil => exact ⟨rfl, rfl, rfl⟩
  | cons m names ih =>
    obtain ⟨v, hv⟩ := Option.isSome_iff_exists.mp (hnames m List.mem_cons_self)
    simp only [walk, bindNames, hv] at hbalk ⊢
    rcases hbind : I.bind m v scripts host with ⟨e | u, scripts', host'⟩
    · simp [hbind] at hbalk
    · simp only [hbind, List.mem_cons, not_or] at hbalk ⊢
      obtain ⟨hwalk, hanswer⟩ := ih (fun k hk => hnames k (List.mem_cons_of_mem m hk))
        fun k w => (hbalk k w).2
      refine ⟨?_, hanswer⟩
      rw [hwalk]
      simp [boundTo, hv]

/-! ### Requests -/

/-- An engine that is open and has a site. -/
structure Ready (e : State μ × Context) : Prop where
  isOpen : IsOpen e.1
  holdsSite : e.1.holdsSite = true
  site : e.2.site.isSome = true

theorem ready_installed (site : Site) (host : Host) : Ready (installed I site host) :=
  ⟨by simp [installed, engine, State.new, IsOpen], rfl, rfl⟩

theorem run_frame {α : Type} (holds : Bool) (source : Option String) (act : Running μ Failure α) (s : State μ)
    (c : Context) : (run holds source act s c).2.1 = { s with scripts := (act s.scripts c.host).2.1 }
      ∧ (run holds source act s c).2.2.host = (act s.scripts c.host).2.2
      ∧ (run holds source act s c).2.2.site.isSome = c.site.isSome := by
  unfold run
  rcases act s.scripts c.host with ⟨f | v, scripts, host⟩
  · cases f with
    | refused e => exact ⟨rfl, rfl, rfl⟩
    | raised report => cases holds <;> simp [surface, tell, Context.tell]
  · exact ⟨rfl, rfl, rfl⟩

theorem runText_frame (text : String) (flags : ParseFlags) (s : State μ) (c : Context) :
    (runText I text flags s c).2.1
        = { s with scripts := (act I (s.scripts, c.host) (.ran text flags)).1, source := some text }
      ∧ (runText I text flags s c).2.2.host = (act I (s.scripts, c.host) (.ran text flags)).2
      ∧ (runText I text flags s c).2.2.site.isSome = c.site.isSome := by
  have hhost : (tell s.holdsSite c Site.enter).host = c.host := by cases s.holdsSite <;> rfl
  have hsite : (tell s.holdsSite c Site.enter).site.isSome = c.site.isSome := by
    cases s.holdsSite <;> simp [tell, Context.tell]
  simp only [runText, act]
  by_cases hflags : flags.expression
  · rw [if_pos hflags, if_pos hflags, ← hhost, ← hsite]
    exact run_frame s.holdsSite (some text) (I.evaluate text) { s with source := some text } _
  · have hrun := run_frame s.holdsSite (some text) (I.execute text) { s with source := some text }
      (tell s.holdsSite c Site.enter)
    rw [if_neg hflags, if_neg hflags, ← hhost, ← hsite]
    revert hrun
    generalize run s.holdsSite (some text) (I.execute text) _ _ = r
    rcases r with ⟨e | u, t, c'⟩ <;> exact id

theorem bindPending_ready {e : State μ × Context} (h : Ready e) {site : Site} (hsite : e.2.site = some site) :
    bindPending I e.1 e.2 = match bindNames I site e.1.pending e.1.scripts e.2.host with
      | (answer, pending, scripts, host) => (answer, { e.1 with pending, scripts }, { e.2 with host }) := by
  have hsome : (if e.1.holdsSite = true then e.2.site else none) = some site := by
    rw [if_pos h.holdsSite, hsite]
  unfold bindPending
  rw [hsome]

/-- Parsing a text, by an engine that is ready: names are bound, and then perhaps the text runs. -/
theorem parseText_ready {e : State μ × Context} (h : Ready e) {site : Site} (hsite : e.2.site = some site)
    (text : String) (flags : ParseFlags) :
    parseText I text flags e.1 e.2 =
      match bindNames I site e.1.pending e.1.scripts e.2.host with
      | (.error err, pending, scripts, host) => (.error err, { e.1 with pending, scripts }, { e.2 with host })
      | (.ok _, pending, scripts, host) =>
        runText I text flags { e.1 with pending, scripts } { e.2 with host } := by
  rw [parseText_isOpen h.isOpen, bindPending_ready h hsite]
  rcases bindNames I site e.1.pending e.1.scripts e.2.host with ⟨err | u, pending, scripts, host⟩ <;> rfl

theorem deedsOf_parse {e : State μ × Context} (h : Ready e) {site : Site} (hsite : e.2.site = some site)
    (text : String) (flags : ParseFlags) :
    deedsOf I e (.parse text flags) = walk I site e.1.pending e.1.scripts e.2.host ++
      match (bindNames I site e.1.pending e.1.scripts e.2.host).1 with
      | .ok _ => [.ran text flags]
      | .error _ => [] := by
  simp only [deedsOf, hsite, bindPending_ready h hsite]
  rcases bindNames I site e.1.pending e.1.scripts e.2.host with ⟨err | u, pending, scripts, host⟩ <;> rfl

/-- What a request does is what its deeds do. -/
structure Faithful (e : State μ × Context) (ds : List Deed) (e' : State μ × Context) : Prop where
  ready : Ready e'
  pending : e'.1.pending = ds.foldl Deed.pend e.1.pending
  effects : (e'.1.scripts, e'.2.host) = ds.foldl (act I) (e.1.scripts, e.2.host)

theorem faithful_parse {e : State μ × Context} (h : Ready e) (text : String) (flags : ParseFlags) :
    Faithful (I := I) e (deedsOf I e (.parse text flags)) (afterRequest I e (.parse text flags)) := by
  obtain ⟨site, hsite⟩ := Option.isSome_iff_exists.mp h.site
  have hbind := bindNames_eq (I := I) site e.1.pending e.1.scripts e.2.host
  rw [deedsOf_parse h hsite]
  have hafter : afterRequest I e (.parse text flags) = (parseText I text flags e.1 e.2).2 := rfl
  rw [hafter, parseText_ready h hsite]
  revert hbind
  generalize walk I site e.1.pending e.1.scripts e.2.host = ds
  rcases bindNames I site e.1.pending e.1.scripts e.2.host with ⟨err | u, pending, scripts, host⟩
  · intro hbind
    simp only [Prod.mk.injEq] at hbind
    exact ⟨⟨h.isOpen, h.holdsSite, h.site⟩, by simpa using hbind.1, by simpa using hbind.2⟩
  · intro hbind
    simp only [Prod.mk.injEq] at hbind
    obtain ⟨hstate, hhost, hsome⟩ :=
      runText_frame (I := I) text flags { e.1 with pending, scripts } { e.2 with host }
    refine ⟨⟨?_, ?_, hsome.trans h.site⟩, ?_, ?_⟩
    · simp only [hstate]
      exact h.isOpen
    · simp only [hstate]
      exact h.holdsSite
    · simp only [hstate, List.foldl_append, ← hbind.1]
      rfl
    · simp only [hstate, hhost, List.foldl_append, ← hbind.2, List.foldl_cons, List.foldl_nil]

theorem faithful_request {e : State μ × Context} (h : Ready e) (r : Request) :
    Faithful (I := I) e (deedsOf I e r) (afterRequest I e r) := by
  have hopen {α : Type} (act : Action (State μ) α) : whileOpen act e.1 e.2 = act e.1 e.2 := if_neg h.isOpen
  cases r with
  | insert name v =>
    exact ⟨⟨h.isOpen, h.holdsSite, by simpa [afterRequest, Context.tell] using h.site⟩, rfl, rfl⟩
  | announce name =>
    simp only [afterRequest, engine, hopen]
    refine ⟨⟨?_, ?_, h.site⟩, ?_, ?_⟩
    · split <;> exact h.isOpen
    · split <;> exact h.holdsSite
    · simp only [deedsOf, List.foldl_cons, List.foldl_nil, Deed.pend]
      split <;> rfl
    · simp only [deedsOf, List.foldl_cons, List.foldl_nil, act]
      split <;> rfl
  | parse text flags => exact faithful_parse h text flags
  | reset =>
    simp only [afterRequest, engine, hopen, setState]
    have hphase : e.1.phase ≠ .closed := fun hclosed => h.isOpen (by simp [hclosed])
    by_cases hsame : e.1.phase = .initialized
    · rw [if_pos hsame]
      exact ⟨⟨h.isOpen, h.holdsSite, h.site⟩, rfl, rfl⟩
    · rw [if_neg hsame, if_neg hphase]
      have hholds : e.1.holdsScripts = true := by
        by_contra hno
        exact h.isOpen (by simp [hno])
      exact ⟨⟨by simp [IsOpen, hholds], h.holdsSite, h.site⟩, rfl, rfl⟩

/-- What a history does is what its deeds do. -/
theorem faithful_after {e : State μ × Context} (h : Ready e) (history : List Request) :
    Faithful (I := I) e (deeds I e history) (after I e history) := by
  induction history generalizing e with
  | nil => exact ⟨h, rfl, rfl⟩
  | cons r rest ih =>
    have hstep := faithful_request (I := I) h r
    have hrest := ih hstep.ready
    refine ⟨hrest.ready, ?_, ?_⟩
    · rw [deeds, List.foldl_append, ← hstep.pending]
      exact hrest.pending
    · rw [deeds, List.foldl_append, ← hstep.effects]
      exact hrest.effects

/-! ### What engines keep to -/

variable (I) in
/-- No name fails to become a global variable while a text is parsed. -/
def Binds (e : State μ × Context) (text : String) (flags : ParseFlags) : Prop :=
  ∀ n v, .balked n v ∉ deedsOf I e (.parse text flags)

/-- What parsing a text comes to, if all names that are assigned become global variables. -/
structure Parses (I : Interpreter μ χ) (site : Site) (e : State μ × Context) (text : String)
    (flags : ParseFlags) : Prop where
  /-- The first name that the site does not hold ends the call: the names before it are bound to what the
  site holds, it waits on with all names after it, the text does not run, and the site stays as it is. -/
  stops : ∀ before n rest, e.1.pending = before ++ n :: rest → (∀ m ∈ before, (site.item? m).isSome) →
    site.item? n = none → Binds I e text flags →
    let bound := (boundTo site before).foldl (act I) (e.1.scripts, e.2.host)
    deedsOf I e (.parse text flags) = boundTo site before
      ∧ (engine I).parseText text flags e.1 e.2 = (.error (.unknownName n),
          { e.1 with pending := n :: rest, scripts := bound.1 }, { e.2 with host := bound.2 })
  /-- If the site holds all names, they are bound in their order, and then the text runs. -/
  runs : (∀ m ∈ e.1.pending, (site.item? m).isSome) → Binds I e text flags →
    let bound := (boundTo site e.1.pending).foldl (act I) (e.1.scripts, e.2.host)
    deedsOf I e (.parse text flags) = boundTo site e.1.pending ++ [.ran text flags]
      ∧ (engine I).parseText text flags e.1 e.2
        = runText I text flags { e.1 with pending := [], scripts := bound.1 } { e.2 with host := bound.2 }

theorem Ready.parses {e : State μ × Context} (h : Ready e) {site : Site} (hsite : e.2.site = some site)
    (text : String) (flags : ParseFlags) : Parses I site e text flags := by
  have hbind := bindNames_eq (I := I) site e.1.pending e.1.scripts e.2.host
  have hparse : (engine I).parseText text flags e.1 e.2 = _ := parseText_ready h hsite text flags
  refine ⟨fun before n rest hpending hbefore hn hbinds => ?_, fun hheld hbinds => ?_⟩
  · rw [Binds, deedsOf_parse h hsite] at hbinds
    rw [hpending] at hbind hparse hbinds
    obtain ⟨hwalk, hanswer, hrest⟩ := bindNames_stops (I := I) site hbefore hn rest
      fun m v hmem => hbinds m v (List.mem_append_left _ hmem)
    rw [deedsOf_parse h hsite, hpending, hwalk, hanswer, hparse]
    rw [hwalk] at hbind
    revert hbind hanswer hrest
    generalize bindNames I site (before ++ n :: rest) e.1.scripts e.2.host = r
    rcases r with ⟨answer, pending, scripts, host⟩
    rintro hbind rfl rfl
    obtain ⟨-, hbind⟩ := Prod.mk.inj hbind
    exact ⟨List.append_nil _, by rw [← hbind]⟩
  · rw [Binds, deedsOf_parse h hsite] at hbinds
    obtain ⟨hwalk, hanswer, hrest⟩ := bindNames_runs (I := I) site hheld
      fun m v hmem => hbinds m v (List.mem_append_left _ hmem)
    rw [deedsOf_parse h hsite, hwalk, hanswer, hparse]
    rw [hwalk] at hbind
    revert hbind hanswer hrest
    generalize bindNames I site e.1.pending e.1.scripts e.2.host = r
    rcases r with ⟨answer, pending, scripts, host⟩
    rintro hbind rfl rfl
    obtain ⟨-, hbind⟩ := Prod.mk.inj hbind
    exact ⟨rfl, by rw [← hbind]⟩

/-- What an engine keeps to after deeds that began with its making. -/
structure KeepsNames (I : Interpreter μ χ) (host : Host) (ds : List Deed) (e : State μ × Context) : Prop where
  /-- The names that wait, each of them once, in the order in which they began to wait. -/
  line : Deed.Line ds e.1.pending
  /-- A name is bound only while it waits, so not again unless it was announced again. -/
  timely : Deed.Timely [] ds
  /-- Nothing but the deeds changes the interpreter, so that what a script assigns to a name stays. -/
  effects : (e.1.scripts, e.2.host) = ds.foldl (act I) (I.initial, host)
  /-- The names that wait are bound when a text is parsed, to what the site then holds. -/
  parses : ∃ site, e.2.site = some site ∧ ∀ text flags, Parses I site e text flags

/-- Names that are bound in a walk wait until then. -/
theorem timely_walk (site : Site) {names : List String} (scripts : μ) (host : Host) {ds : List Deed}
    (hline : Deed.Line ds names) : Deed.Timely ds (walk I site names scripts host) := by
  induction names generalizing scripts host ds with
  | nil => exact .nil ds
  | cons name rest ih =>
    simp only [walk]
    cases site.item? name with
    | none => exact .nil ds
    | some v =>
      dsimp only
      rcases I.bind name v scripts host with ⟨err | u, scripts', host'⟩
      · exact .cons (fun n w h => by cases h) (.nil _)
      · refine .cons (fun n w h => ?_) (ih scripts' host' ?_)
        · obtain ⟨rfl, -⟩ := Deed.bound.inj h
          exact (hline.mem_iff _).mp List.mem_cons_self
        · have hnext := hline.bound name v
          rwa [Deed.pend, List.erase_cons_head] at hnext

theorem timely_deedsOf {e : State μ × Context} (h : Ready e) {ds : List Deed}
    (hline : Deed.Line ds e.1.pending) (r : Request) : Deed.Timely ds (deedsOf I e r) := by
  cases r with
  | insert name v => exact .nil ds
  | announce name => exact .cons (fun n v h => by cases h) (.nil _)
  | reset => exact .cons (fun n v h => by cases h) (.nil _)
  | parse text flags =>
    obtain ⟨site, hsite⟩ := Option.isSome_iff_exists.mp h.site
    rw [deedsOf_parse h hsite]
    refine (timely_walk site e.1.scripts e.2.host hline).append ?_
    cases (bindNames I site e.1.pending e.1.scripts e.2.host).1 with
    | ok _ => exact .cons (fun n v h => by cases h) (.nil _)
    | error _ => exact .nil _

theorem timely_deeds {e : State μ × Context} (h : Ready e) {ds : List Deed}
    (hpending : e.1.pending = ds.foldl Deed.pend []) (history : List Request) :
    Deed.Timely ds (deeds I e history) := by
  induction history generalizing e ds with
  | nil => exact .nil ds
  | cons r rest ih =>
    have hstep := faithful_request (I := I) h r
    refine (timely_deedsOf h (hpending ▸ Deed.line_foldl ds) r).append (ih hstep.ready ?_)
    rw [List.foldl_append, ← hpending]
    exact hstep.pending

/-- **Names wait in line.**  So it is after every history, from the making of an engine on. -/
theorem keepsNames (I : Interpreter μ χ) (site : Site) (host : Host) (history : List Request) :
    KeepsNames I host (deeds I (installed I site host) history) (after I (installed I site host) history) := by
  have hready := ready_installed (I := I) site host
  have hafter := faithful_after (I := I) hready history
  obtain ⟨site', hsite'⟩ := Option.isSome_iff_exists.mp hafter.ready.site
  refine ⟨?_, timely_deeds hready rfl history, hafter.effects, site', hsite', hafter.ready.parses hsite'⟩
  rw [hafter.pending]
  exact Deed.line_foldl _

end Interpreted

end ScriptHost
