/-
Conversations: what was asked of a partner in a run, and whether the answers were good.

A script is a list of requests, each with what makes its reply a good one. A `Chain` is a
program that makes the requests of a script in order: a good reply takes it to the next,
a bad one ends it. To talk about more than one program at a time the partner keeps a log
(`recorded`), and a log `Follows` a script, or `Breaks` it: then all went well up to a
request whose reply was an error or not good, and after that one nothing was asked.

What a chain does to the log is `Chain.run`; what several chains do is put together by
`Conducted.bind` alone, however a program with loops and clocks comes to run them.
-/
import RobstrideDriver.Lib.Dialogue

set_option autoImplicit false

namespace Dialogue

variable {Req Resp Err α β : Type} {σ : Type*}

/-! ## Scripts and logs -/

/-- A request, and what a good reply to it is. -/
structure Step (Req Resp : Type) where
  request : Req
  good : Resp → Prop

/-- A request that was made, and what came of it. -/
structure Entry (Req Resp Err : Type) where
  request : Req
  reply : Except Err Resp
deriving DecidableEq, Repr

def Step.Done (step : Step Req Resp) (entry : Entry Req Resp Err) : Prop :=
  entry.request = step.request ∧ ∃ x, entry.reply = .ok x ∧ step.good x

def Step.Failed (step : Step Req Resp) (entry : Entry Req Resp Err) : Prop :=
  entry.request = step.request ∧ ∀ x, entry.reply = .ok x → ¬ step.good x

/-- Every request of the script was made, in order, and had a good reply. -/
def Follows (script : List (Step Req Resp)) (log : List (Entry Req Resp Err)) : Prop :=
  List.Forall₂ Step.Done script log

/-- So it was up to the last request made, whose reply was not good. -/
def Breaks (script : List (Step Req Resp)) (log : List (Entry Req Resp Err)) : Prop :=
  ∃ before step after entries entry, script = before ++ step :: after ∧
    log = entries ++ [entry] ∧ Follows before entries ∧ step.Failed entry

/-- What has been conducted by a script: to its end if it returned, and otherwise to a
reply that was not good. -/
def Conducted (script : List (Step Req Resp)) (result : Except Err α)
    (log : List (Entry Req Resp Err)) : Prop :=
  match result with
  | .ok _ => Follows script log
  | .error _ => Breaks script log

variable {script script' : List (Step Req Resp)} {log log' : List (Entry Req Resp Err)}

/-- Two scripts that were followed one after the other are followed as one. -/
theorem Follows.append (h : Follows script log) (h' : Follows script' log') :
    Follows (script ++ script') (log ++ log') :=
  List.rel_append h h'

/-- A script that was followed, and then one that was broken: the whole is broken where the second
is. -/
theorem Follows.breaks (h : Follows script log) (h' : Breaks script' log') :
    Breaks (script ++ script') (log ++ log') := by
  obtain ⟨before, step, after, entries, entry, rfl, rfl, hbefore, hfailed⟩ := h'
  exact ⟨script ++ before, step, after, log ++ entries, entry, (List.append_assoc _ _ _).symm,
    (List.append_assoc _ _ _).symm, h.append hbefore, hfailed⟩

/-- What would have come after a break does not matter, for nothing is said after it. -/
theorem Breaks.append (h : Breaks script log) (script' : List (Step Req Resp)) :
    Breaks (script ++ script') log := by
  obtain ⟨before, step, after, entries, entry, rfl, hlog, hbefore, hfailed⟩ := h
  refine ⟨before, step, after ++ script', entries, entry, ?_, hlog, hbefore, hfailed⟩
  rw [List.append_assoc, List.cons_append]

/-- One thing after another: where the first returned its script was followed, and the outcome of
the second is the outcome of both. -/
theorem Conducted.bind {a : α} {result : Except Err β} (h : Conducted script (.ok a) log)
    (h' : Conducted script' result log') :
    Conducted (script ++ script') result (log ++ log') := by
  cases result with
  | ok b => exact Follows.append h h'
  | error e => exact Follows.breaks h h'

/-- What failed has broken its script, and so also any longer one that begins with it. -/
theorem Conducted.error {e : Err} (h : Conducted script (.error e : Except Err α) log)
    (script' : List (Step Req Resp)) :
    Conducted (script ++ script') (.error e : Except Err β) log :=
  Breaks.append h script'

/-! ## Chains -/

/-- The program makes the requests of the script, as long as the replies are good. -/
inductive Chain : List (Step Req Resp) → Dialogue Req Resp Err α → Prop
  | done (a : α) : Chain [] (done a)
  | ask {r : Req} {good : Resp → Prop} {script : List (Step Req Resp)}
      {k : Resp → Dialogue Req Resp Err α} (hgood : ∀ x, good x → Chain script (k x))
      (hbad : ∀ x, ¬ good x → ∃ e, k x = fail e) : Chain (⟨r, good⟩ :: script) (ask r k)

/-- Chains compose: the exchanges of the second come after those of the first, whatever value it was
given. -/
theorem Chain.bind {p : Dialogue Req Resp Err α} (hp : Chain script p)
    {f : α → Dialogue Req Resp Err β} (hf : ∀ a, Chain script' (f a)) :
    Chain (script ++ script') (p >>= f) := by
  induction hp with
  | done a => exact hf a
  | ask _ hbad ih =>
    rw [ask_bind, List.cons_append]
    refine .ask ih fun x hx => ?_
    obtain ⟨e, he⟩ := hbad x hx
    exact ⟨e, by rw [he]; rfl⟩

/-- The script of a line: its check is made of the last reply. -/
def gated (accepts : Req → Resp → Prop) (check : Resp → Prop) : List Req → List (Step Req Resp)
  | [] => []
  | r :: rs =>
    ⟨r, fun x => accepts r x ∧ (rs = [] → check x)⟩ :: gated accepts check rs

/-- A line is a chain: each of its steps goes on when its reply is accepted, and the last one when
it passes the check. -/
theorem Line.chain {accepts : Req → Resp → Prop} {check : Resp → Prop} {rs : List Req}
    {p : Dialogue Req Resp Err α} (hp : Line accepts check rs p) :
    Chain (gated accepts check rs) p := by
  induction hp with
  | @last r k hpass hfail =>
    rw [gated]
    refine .ask ?_ ?_
    · rintro x ⟨haccepts, hcheck⟩
      obtain ⟨a, ha⟩ := hpass x haccepts (hcheck rfl)
      rw [ha]
      exact .done a
    · intro x hx
      exact hfail x fun h => hx ⟨h.1, fun _ => h.2⟩
  | @step r rs k hstep hfail ih =>
    rw [gated]
    refine .ask ?_ ?_
    · exact fun x hx => ih x hx.1
    · intro x hx
      refine hfail x fun haccepts => hx ⟨haccepts, ?_⟩
      rintro rfl
      cases hstep x haccepts

/-! ## The log -/

/-- The partner with a log. -/
def recorded (h : Handler Req Resp Err σ) :
    Handler Req Resp Err (σ × List (Entry Req Resp Err)) :=
  fun r s => ((h r s.1).1, (h r s.1).2, s.2 ++ [⟨r, (h r s.1).1⟩])

/-- One request with a good reply is conducted as its script says. -/
theorem Conducted.single {r : Req} {good : Resp → Prop} {x : Resp} (hx : good x) :
    Conducted [⟨r, good⟩] (.ok x : Except Err Resp) [⟨r, .ok x⟩] :=
  List.Forall₂.cons ⟨rfl, x, rfl, hx⟩ .nil

/-- A bad reply is the end: the script is broken at its first step. -/
theorem Breaks.first {r : Req} {good : Resp → Prop} {reply : Except Err Resp}
    (hreply : ∀ x, reply = .ok x → ¬ good x) (script : List (Step Req Resp)) :
    Breaks (⟨r, good⟩ :: script) [⟨r, reply⟩] :=
  ⟨[], ⟨r, good⟩, script, [], ⟨r, reply⟩, rfl, rfl, .nil, rfl, hreply⟩

/-- **A chain follows its script, or breaks it.** Whatever the partner answers, the log of a run is
the script as far as the first reply that is not good, and the run fails exactly there. -/
theorem Chain.run {p : Dialogue Req Resp Err α} (hp : Chain script p)
    (h : Handler Req Resp Err σ) (s : σ × List (Entry Req Resp Err)) :
    ∃ entries, (run (recorded h) p s).2.2 = s.2 ++ entries ∧
      Conducted script (run (recorded h) p s).1 entries := by
  induction hp generalizing s with
  | done a => exact ⟨[], (List.append_nil _).symm, .nil⟩
  | @ask r good script k _ hbad ih =>
    have hlog : (recorded h r s).2.2 = s.2 ++ [⟨r, (recorded h r s).1⟩] := rfl
    cases hx : (recorded h r s).1 with
    | error e =>
      rw [hx] at hlog
      rw [run_ask_error hx]
      refine ⟨_, hlog, .first ?_ script⟩
      rintro y hy
      cases hy
    | ok x =>
      rw [hx] at hlog
      rw [run_ask_ok hx]
      by_cases hgood : good x
      · obtain ⟨entries, hrest, hconducted⟩ := ih x hgood (recorded h r s).2
        have hfirst : Conducted [⟨r, good⟩] (.ok x : Except Err Resp) [⟨r, .ok x⟩] := .single hgood
        refine ⟨_, ?_, hfirst.bind hconducted⟩
        rw [hrest, hlog, List.append_assoc]
      · obtain ⟨e, he⟩ := hbad x hgood
        rw [he, run_fail]
        refine ⟨_, hlog, .first ?_ script⟩
        rintro y hy
        obtain rfl := Except.ok.inj hy
        exact hgood

end Dialogue
