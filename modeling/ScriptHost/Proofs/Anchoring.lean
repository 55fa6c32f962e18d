import ScriptHost.Engine.Rehearsed
import ScriptHost.Proofs.Variants

/-!
# Faults and the texts they point into

A fault is built from a report, whose position counts from 0, and it may be pointed at another text
later, when only its own position is left, which counts from 1 and stops at `positionLimit`.  Nothing
is lost on the way: a fault pointed at a text is the fault that the report would have made for that
text, as long as every line of the text has a number.

* `Text.isBlank_getLast_trimEnd` — what ends a text without the white space at its end.
* `Fault.composed`, `Fault.IsConsistent` — the message that the parts of a fault make, and what the parts
  are to each other in every fault.
* `Engine.Blames` — an engine that fails on a text and leaves a report in the mailbox.
* `Session.eval_narrow_of_blames`, `Session.eval_wide_of_blames` — what a session answers then.
* `anchoring_law` — **faults are consistent, and pointing them at a text is exact.**
-/

namespace ScriptHost

/-! ## The source line -/

/-- A text without the white space at its end does not end with white space. -/
theorem Text.isBlank_getLast_trimEnd {s : String} {c : Char}
    (h : (Text.trimEnd s).toList.getLast? = some c) : Text.isBlank c = false := by
  have hdrop := List.head?_dropWhile_not Text.isBlank s.toList.reverse
  rw [Text.trimEnd, String.toList_ofList, List.getLast?_reverse] at h
  rw [h] at hdrop
  exact hdrop

/-- A source line of a fault: text without white space at its end, and not empty. -/
def IsSourceLine (line : String) : Prop :=
  line ≠ "" ∧ ∀ c, line.toList.getLast? = some c → Text.isBlank c = false

/-- A line of a text is a source line once it is not empty. -/
theorem isSourceLine_of_lineAt? {text line : String} {n : Nat}
    (h : (Text.lineAt? text n).filter (!·.isEmpty) = some line) : IsSourceLine line := by
  obtain ⟨hline, hfull⟩ := Option.filter_eq_some_iff.mp h
  obtain ⟨raw, -, rfl⟩ := Option.map_eq_some_iff.mp hline
  refine ⟨?_, fun c => Text.isBlank_getLast_trimEnd⟩
  intro hempty
  rw [hempty] at hfull
  exact absurd hfull (by decide)

/-! ## Consistent faults -/

/-- The message that the other parts of a fault make. -/
def Fault.composed (f : Fault) : String :=
  "Script exception: " ++ f.sourceName ++ ". Error number " ++ toString f.code ++ " (0x" ++ hexWord f.code
    ++ "): " ++ f.description ++ " at line " ++ toString f.line ++ ", column " ++ toString f.column ++ "."
    ++ match f.sourceLine with
      | some line => " Source line: '" ++ line ++ "'."
      | none => ""

/-- What the parts of a fault are to each other. -/
structure Fault.IsConsistent (f : Fault) : Prop where
  one_le_line : 1 ≤ f.line
  one_le_column : 1 ≤ f.column
  sourceLine : ∀ line, f.sourceLine = some line → IsSourceLine line
  message : f.message = f.composed

theorem Fault.message_make (sourceName : String) (code : Int) (line column : Nat) (description : String)
    (sourceLine : Option String) :
    (Fault.make sourceName code line column description sourceLine).message
      = (Fault.make sourceName code line column description sourceLine).composed := by
  unfold Fault.composed Fault.make
  cases sourceLine.filter (!·.isEmpty) with
  | none => exact String.append_empty.symm
  | some text => simp only [String.append_assoc]

theorem one_le_succPosition (n : Nat) : 1 ≤ succPosition n :=
  Nat.le_min.mpr ⟨Nat.le_add_left 1 n, by decide⟩

theorem ErrorReport.fault_isConsistent (r : ErrorReport) : r.fault.IsConsistent where
  one_le_line := one_le_succPosition r.line
  one_le_column := one_le_succPosition r.column
  message := Fault.message_make ..
  sourceLine := by
    intro line hline
    obtain ⟨hfound, -⟩ := Option.filter_eq_some_iff.mp hline
    obtain ⟨text, -, hat⟩ := Option.bind_eq_some_iff.mp hfound
    have hkept : (Text.lineAt? text r.line).filter (!·.isEmpty) = some line := by
      rw [hat]
      exact (congrArg (Option.filter _) hfound).symm.trans hline
    exact isSourceLine_of_lineAt? hkept

/-- Pointing a consistent fault at a text leaves it consistent, even if the text has lines without a
number. -/
theorem Fault.IsConsistent.against {f : Fault} (h : f.IsConsistent) (text : String) :
    (f.against text).IsConsistent where
  one_le_line := h.one_le_line
  one_le_column := h.one_le_column
  message := Fault.message_make ..
  sourceLine := by
    intro line hline
    unfold Fault.against at hline
    rw [if_neg (by have := h.one_le_line; omega)] at hline
    exact isSourceLine_of_lineAt? hline

/-! ## Sessions -/

section

variable {σ δ : Type}

/-- The engine fails on a text, and what it left in the mailbox is the fault of a report. -/
def Engine.Blames (E : Engine σ δ) (text : String) (flags : ParseFlags) (engine : σ) (c : Context)
    (r : ErrorReport) : Prop :=
  ∃ e engine' c' site, E.parseText text flags engine c = (.error e, engine', c')
    ∧ c'.site = some (Site.report site r)

/-- The engine of a session, and what it can reach once a session has been connected for a call. -/
def Session.Connects (E : Engine σ δ) (s : Session σ) (host : Host) (engine : σ) (c : Context) : Prop :=
  ∃ before site after c', s.engine = some before ∧ s.site = some site
    ∧ E.setState .connected before ⟨some site, host⟩ = (.ok (), after, c')
    ∧ engine = after ∧ c = c'.tell Site.clear

theorem Context.surface_report {c : Context} {site : Site} {r : ErrorReport}
    (h : c.site = some (site.report r)) (e : NativeError) : (c.surface e).1 = .scriptFault r.fault := by
  rw [Context.surface, h]
  rfl

theorem Session.Connects.connect_eq {E : Engine σ δ} {s : Session σ} {host : Host} {engine : σ} {c : Context}
    (h : s.Connects E host engine c) {α : Type}
    (use : σ → Context → Except HostError α × Session σ × Host) : s.connect E host use = use engine c := by
  obtain ⟨before, site, after, c', hengine, hsite, hstate, rfl, rfl⟩ := h
  rw [Session.connect, hengine, hsite]
  simp only [hstate]

/-- The wide variant hands on the fault of the report. -/
theorem Session.eval_wide_of_blames {E : Engine σ δ} {s : Session σ} {host : Host} {engine : σ} {c : Context}
    {text : String} {r : ErrorReport} (hvariant : s.variant = .wide) (hconnects : s.Connects E host engine c)
    (h : E.Blames text { expression := true } engine c r) :
    (s.eval E text host).1 = .error (.scriptFault r.fault) := by
  obtain ⟨e, engine', c', site, hparse, hsite⟩ := h
  rw [Session.eval, hconnects.connect_eq, hvariant]
  simp only [Session.evalWide, hparse, Session.fail, Context.surface_report hsite]

/-- The narrow variant points the fault of the report at the text of the evaluation. -/
theorem Session.eval_narrow_of_blames {E : Engine σ δ} {s : Session σ} {host : Host} {engine : σ} {c : Context}
    {text : String} {r : ErrorReport} (hvariant : s.variant = .narrow) (hconnects : s.Connects E host engine c)
    (h : E.Blames (E.assignment engine resultVariable text) {} engine c r) :
    (s.eval E text host).1 = .error (.scriptFault (r.fault.against text)) := by
  obtain ⟨e, engine', c', site, hparse, hsite⟩ := h
  rw [Session.eval, hconnects.connect_eq, hvariant]
  simp only [Session.evalNarrow, hparse, Context.surface_report hsite, HostError.against]

end

/-! ## The law -/

/-- **Faults are consistent, and pointing them at a text is exact.**  What the site keeps of a report has
the position of the report, counted from 1, and is consistent.  Pointing it at a text makes the fault
that the report would have made for that text, whatever text it was made for, and doing it again changes
nothing.  So a narrow session answers as a wide one when both are told the same of a text. -/
theorem anchoring_law (r : ErrorReport) :
    (∀ site : Site, ∃ f, (site.report r).fault = some f ∧ f.IsConsistent
        ∧ f.line = min (r.line + 1) positionLimit ∧ f.column = min (r.column + 1) positionLimit
        ∧ f.sourceName = r.sourceName ∧ f.code = r.code ∧ f.description = r.description)
      ∧ (∀ statement expression, IsShort expression →
        (HostError.scriptFault { r with sourceText := some statement }.fault).against expression
          = .scriptFault { r with sourceText := some expression }.fault)
      ∧ (∀ (e : HostError) text, (e.against text).against text = e.against text)
      ∧ ∀ {σ δ σ' δ' : Type} (E : Engine σ δ) (E' : Engine σ' δ') (n : Session σ) (w : Session σ')
          (text : String) (host host' : Host) (engine : σ) (engine' : σ') (c c' : Context), IsShort text →
        n.variant = .narrow → n.Connects E host engine c →
        E.Blames (E.assignment engine resultVariable text) {} engine c r →
        w.variant = .wide → w.Connects E' host' engine' c' →
        E'.Blames text { expression := true } engine' c' { r with sourceText := some text } →
        (n.eval E text host).1 = .error (.scriptFault { r with sourceText := some text }.fault)
          ∧ (w.eval E' text host').1 = (n.eval E text host).1 := by
  refine ⟨fun site => ⟨r.fault, rfl, r.fault_isConsistent, rfl, rfl, rfl, rfl, rfl⟩, ?_,
    HostError.against_against, ?_⟩
  · intro statement expression hshort
    exact congrArg HostError.scriptFault (ErrorReport.fault_against _ hshort)
  · intro σ δ σ' δ' E E' n w text host host' engine engine' c c' hshort hn hconnects hblames hw hconnects'
      hblames'
    rw [Session.eval_wide_of_blames hw hconnects' hblames', Session.eval_narrow_of_blames hn hconnects hblames,
      r.fault_against hshort]
    exact ⟨rfl, rfl⟩

/-- Two sessions of a rehearsed engine that is told to report a syntax error, for the statement in one
session and for the text in the other one. -/
theorem anchoring_law_rehearsed :
    let E := Engine.Rehearsed.engine .required
    let text := "a\nb = ; "
    let r : ErrorReport := ⟨"SyntaxError", -2146827286, "unexpected token", 1, 4, some "x___:=a\nb = ; "⟩
    let n : Session EngineState := ⟨"stub", some .initialized, some {}, .narrow⟩
    let w : Session EngineState := ⟨"stub", some .initialized, some {}, .wide⟩
    let host (r : ErrorReport) : Host := { replies := { parseText := [⟨[.error r], .error .exception⟩] } }
    let c (r : ErrorReport) : Context := ⟨some {}, (host r).record (.setState .connected)⟩
    let anchored : ErrorReport := { r with sourceText := some text }
    IsShort text ∧ n.Connects E (host r) .connected (c r)
      ∧ E.Blames (E.assignment .connected resultVariable text) {} .connected (c r) r
      ∧ w.Connects E (host anchored) .connected (c anchored)
      ∧ E.Blames text { expression := true } .connected (c anchored) anchored
      ∧ (HostError.scriptFault r.fault).against text = .scriptFault anchored.fault
      ∧ (n.eval E text (host r)).1 = .error (.scriptFault anchored.fault)
      ∧ (w.eval E text (host anchored)).1 = (n.eval E text (host r)).1 := by
  intro E text r n w host c anchored
  have hshort : IsShort text := by
    unfold IsShort
    decide +kernel
  have hn : n.Connects E (host r) .connected (c r) := ⟨_, _, _, _, rfl, rfl, rfl, rfl, rfl⟩
  have hw : w.Connects E (host anchored) .connected (c anchored) := ⟨_, _, _, _, rfl, rfl, rfl, rfl, rfl⟩
  have hblames : E.Blames (E.assignment .connected resultVariable text) {} .connected (c r) r :=
    ⟨.exception, .connected, _, {}, rfl, rfl⟩
  have hblames' : E.Blames text { expression := true } .connected (c anchored) anchored :=
    ⟨.exception, .connected, _, {}, rfl, rfl⟩
  obtain ⟨-, hexact, -, hvariants⟩ := anchoring_law r
  exact ⟨hshort, hn, hblames, hw, hblames', hexact _ text hshort,
    hvariants E E n w text _ _ _ _ _ _ hshort rfl hn hblames rfl hw hblames'⟩

end ScriptHost
