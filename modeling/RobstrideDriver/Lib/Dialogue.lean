/-
Dialogues: programs that talk to a stateful partner one request at a time.

A `Dialogue` is a finite tree of requests, each continued by its reply, that ends
in a value or an error. Nothing is said about the partner until a `Handler` is
chosen: a function from a request and a state to a reply (or an error, which
ends the program) and the next state. So one program text runs against a
scripted partner, a simulated one or a faulty one, and the rules below are
proved once for all of them:

* `run_invariant`, `session_invariant`: what every single exchange preserves, a
  program preserves and a list of programs preserves;
* `Achieves`: a program returns normally, and with what; `Ensures`: if it returns
  normally, with what;
* `transcript_mem`: every turn of a run is the handler's own step, taken in a
  state the invariant holds of;
* `Line.gates`: a program without choices makes its next request only once the
  reply to the one before was accepted;
* `run_rel`, `session_rel`: two partners that answer related states alike are
  told apart by no program.

A program may be held to a vocabulary (`Asks P`), and then the handler has to be
understood on that vocabulary only.
-/
import Mathlib

set_option autoImplicit false

/-- A program over requests `Req` answered by `Resp`, failing with `Err`. -/
inductive Dialogue (Req Resp Err α : Type) : Type where
  | done (a : α)
  | fail (e : Err)
  | ask (r : Req) (k : Resp → Dialogue Req Resp Err α)

namespace Dialogue

variable {Req Resp Err α β : Type}

/-- Sequencing: `f` continues where `p` ends in a value. -/
protected def bind (p : Dialogue Req Resp Err α) (f : α → Dialogue Req Resp Err β) :
    Dialogue Req Resp Err β :=
  match p with
  | done a => f a
  | fail e => fail e
  | ask r k => ask r (fun x => (k x).bind f)

instance : Monad (Dialogue Req Resp Err) where
  pure := done
  bind := Dialogue.bind

/-- The program that makes one request and returns the reply. -/
def request (r : Req) : Dialogue Req Resp Err Resp := ask r done

@[simp] theorem ask_bind (r : Req) (k : Resp → Dialogue Req Resp Err α)
    (f : α → Dialogue Req Resp Err β) : (ask r k >>= f) = ask r (fun x => k x >>= f) := rfl

/-- Sequencing is associative, so that a program of several parts can be cut where a proof needs it,
not only where it was written. -/
theorem bind_assoc {γ : Type} (p : Dialogue Req Resp Err α) (f : α → Dialogue Req Resp Err β)
    (g : β → Dialogue Req Resp Err γ) : p >>= f >>= g = p >>= fun a => f a >>= g := by
  induction p with
  | done a => rfl
  | fail e => rfl
  | ask r k ih =>
    rw [ask_bind, ask_bind, ask_bind]
    exact congrArg (ask r) (funext ih)

/-! ## Running -/

/-- A partner: the reply to a request in a state, and the state after it. -/
abbrev Handler (Req Resp Err : Type) (σ : Type*) := Req → σ → Except Err Resp × σ

variable {σ τ : Type*}

/-- A program against a partner: the first error ends it. -/
def run (h : Handler Req Resp Err σ) : Dialogue Req Resp Err α → σ → Except Err α × σ
  | done a, s => (.ok a, s)
  | fail e, s => (.error e, s)
  | ask r k, s =>
    match h r s with
    | (.ok x, s') => run h (k x) s'
    | (.error e, s') => (.error e, s')

@[simp] theorem run_done (h : Handler Req Resp Err σ) (a : α) (s : σ) :
    run h (done a) s = (.ok a, s) := rfl

@[simp] theorem run_fail (h : Handler Req Resp Err σ) (e : Err) (s : σ) :
    run h (fail e : Dialogue Req Resp Err α) s = (.error e, s) := rfl

/-- One exchange that is answered: the run goes on with what the program does with the reply, in the
state the partner is left in. -/
theorem run_ask_ok {h : Handler Req Resp Err σ} {r : Req} {s : σ} {x : Resp}
    (hx : (h r s).1 = .ok x) (k : Resp → Dialogue Req Resp Err α) :
    run h (ask r k) s = run h (k x) (h r s).2 := by
  have hs : h r s = (.ok x, (h r s).2) := Prod.ext hx rfl
  rw [run, hs]

/-- One exchange that fails: the run ends with the partner's error, whatever the program would have
done with a reply. -/
theorem run_ask_error {h : Handler Req Resp Err σ} {r : Req} {s : σ} {e : Err}
    (he : (h r s).1 = .error e) (k : Resp → Dialogue Req Resp Err α) :
    run h (ask r k) s = (.error e, (h r s).2) := by
  have hs : h r s = (.error e, (h r s).2) := Prod.ext he rfl
  rw [run, hs]

/-- A run of two parts is a run of the first and, if that returns, of the second from where it
ended. All that follows about sequences comes down to this equation. -/
theorem run_bind (h : Handler Req Resp Err σ) (p : Dialogue Req Resp Err α)
    (f : α → Dialogue Req Resp Err β) (s : σ) :
    run h (p >>= f) s
      = match run h p s with
        | (.ok a, s') => run h (f a) s'
        | (.error e, s') => (.error e, s') := by
  induction p generalizing s with
  | done a => rfl
  | fail e => rfl
  | ask r k ih =>
    rw [ask_bind]
    cases hx : (h r s).1 with
    | ok x => rw [run_ask_ok hx, run_ask_ok hx, ih]
    | error e => rw [run_ask_error hx, run_ask_error hx]

@[simp] theorem run_request (h : Handler Req Resp Err σ) (r : Req) (s : σ) :
    run h (request r) s = h r s := by
  obtain ⟨reply, s', hs⟩ : ∃ reply s', h r s = (reply, s') := ⟨_, _, rfl⟩
  cases reply with
  | ok x => rw [request, run_ask_ok (by rw [hs]), hs, run_done]
  | error e => rw [request, run_ask_error (by rw [hs]), hs]

/-- A sequence returns normally exactly when both parts do, the second on the value and from the
state that the first has left. -/
theorem run_bind_eq_ok {h : Handler Req Resp Err σ} {p : Dialogue Req Resp Err α}
    {f : α → Dialogue Req Resp Err β} {s s' : σ} {b : β} :
    run h (p >>= f) s = (.ok b, s') ↔
      ∃ a s₁, run h p s = (.ok a, s₁) ∧ run h (f a) s₁ = (.ok b, s') := by
  rw [run_bind]
  obtain ⟨reply, s₁, hs⟩ : ∃ reply s₁, run h p s = (reply, s₁) := ⟨_, _, rfl⟩
  rw [hs]
  cases reply with
  | ok a =>
    constructor
    · intro hrun
      exact ⟨a, s₁, rfl, hrun⟩
    · rintro ⟨a', s₁', heq, hrun⟩
      obtain ⟨ha, rfl⟩ := Prod.mk.inj heq
      rw [Except.ok.inj ha]
      exact hrun
  | error e =>
    constructor
    · intro hrun
      cases congrArg Prod.fst hrun
    · rintro ⟨a', s₁', heq, -⟩
      cases congrArg Prod.fst heq

/-- Several programs one after the other, each started whatever became of the
one before; for each, its outcome and the state it left. -/
def session (h : Handler Req Resp Err σ) : List (Dialogue Req Resp Err α) → σ →
    List (Except Err α × σ)
  | [], _ => []
  | p :: ps, s => run h p s :: session h ps (run h p s).2

/-- The state several programs leave. -/
def after (h : Handler Req Resp Err σ) (ps : List (Dialogue Req Resp Err α)) (s : σ) : σ :=
  ps.foldl (fun s p => (run h p s).2) s

@[simp] theorem after_cons (h : Handler Req Resp Err σ) (p : Dialogue Req Resp Err α)
    (ps : List (Dialogue Req Resp Err α)) (s : σ) :
    after h (p :: ps) s = after h ps (run h p s).2 := rfl

/-! ## Vocabulary -/

/-- Every request the program can come to make satisfies `P`. -/
def Asks (P : Req → Prop) : Dialogue Req Resp Err α → Prop
  | done _ => True
  | fail _ => True
  | ask r k => P r ∧ ∀ x, (k x).Asks P

/-- A program asks nothing beyond the vocabulary if its parts do not, the second for whatever value
the first returns. -/
theorem Asks.bind {P : Req → Prop} {p : Dialogue Req Resp Err α}
    {f : α → Dialogue Req Resp Err β} (hp : p.Asks P) (hf : ∀ a, (f a).Asks P) :
    (p >>= f).Asks P := by
  induction p with
  | done a => exact hf a
  | fail e => trivial
  | ask r k ih => exact ⟨hp.1, fun x => ih x (hp.2 x)⟩

theorem Asks.request {P : Req → Prop} {r : Req} (hr : P r) :
    (request r : Dialogue Req Resp Err Resp).Asks P :=
  ⟨hr, fun _ => trivial⟩

/-- Every program stays within the vocabulary of all requests, which is what rules without a
condition on the requests are applied with. -/
theorem Asks.trivial (p : Dialogue Req Resp Err α) : p.Asks (fun _ => True) := by
  induction p with
  | done a => exact True.intro
  | fail e => exact True.intro
  | ask r k ih => exact ⟨True.intro, ih⟩

/-! ## Transcripts -/

/-- One exchange of a run, with the states around it. -/
structure Turn (Req Resp Err : Type) (σ : Type*) where
  before : σ
  request : Req
  reply : Except Err Resp
  after : σ

/-- The exchanges of a run, in order. -/
def transcript (h : Handler Req Resp Err σ) :
    Dialogue Req Resp Err α → σ → List (Turn Req Resp Err σ)
  | done _, _ => []
  | fail _, _ => []
  | ask r k, s =>
    ⟨s, r, (h r s).1, (h r s).2⟩ ::
      match (h r s).1 with
      | .ok x => transcript h (k x) (h r s).2
      | .error _ => []

/-- The exchanges of a session, in order. -/
def sessionTranscript (h : Handler Req Resp Err σ) :
    List (Dialogue Req Resp Err α) → σ → List (Turn Req Resp Err σ)
  | [], _ => []
  | p :: ps, s => transcript h p s ++ sessionTranscript h ps (run h p s).2

section Invariant

variable {h : Handler Req Resp Err σ} {I : σ → Prop} {P : Req → Prop}

/-- The invariant rule: what every exchange preserves, a program preserves. The induction is on the
program, so it holds however many exchanges a run has. -/
theorem run_invariant (hI : ∀ r s, P r → I s → I (h r s).2) {p : Dialogue Req Resp Err α}
    (hp : p.Asks P) {s : σ} (hs : I s) : I (run h p s).2 := by
  induction p generalizing s with
  | done a => exact hs
  | fail e => exact hs
  | ask r k ih =>
    cases hx : (h r s).1 with
    | ok x =>
      rw [run_ask_ok hx]
      exact ih x (hp.2 x) (hI r s hp.1 hs)
    | error e =>
      rw [run_ask_error hx]
      exact hI r s hp.1 hs

/-- The same for a list of programs run one after the other, whether they return or fail: an
exception of one does not stop the next from being run. -/
theorem session_invariant (hI : ∀ r s, P r → I s → I (h r s).2)
    {ps : List (Dialogue Req Resp Err α)} (hps : ∀ p ∈ ps, p.Asks P) {s : σ} (hs : I s) :
    I (after h ps s) := by
  induction ps generalizing s with
  | nil => exact hs
  | cons p ps ih =>
    rw [after_cons]
    exact ih (fun q hq => hps q (List.mem_cons_of_mem p hq))
      (run_invariant hI (hps p List.mem_cons_self) hs)

/-- Every turn of a run is the handler's own step, on a request of the
vocabulary, taken where the invariant holds. -/
theorem transcript_mem (hI : ∀ r s, P r → I s → I (h r s).2) {p : Dialogue Req Resp Err α}
    (hp : p.Asks P) {s : σ} (hs : I s) {t : Turn Req Resp Err σ} (ht : t ∈ transcript h p s) :
    I t.before ∧ P t.request ∧ h t.request t.before = (t.reply, t.after) := by
  induction p generalizing s with
  | done a => cases ht
  | fail e => cases ht
  | ask r k ih =>
    rw [transcript] at ht
    rcases List.mem_cons.mp ht with rfl | ht
    · exact ⟨hs, hp.1, rfl⟩
    · cases hx : (h r s).1 with
      | ok x =>
        rw [hx] at ht
        exact ih x (hp.2 x) (hI r s hp.1 hs) ht
      | error e =>
        rw [hx] at ht
        cases ht

/-- And over a session: each turn of it was taken where the invariant held, by the handler's own
step, on a request of the vocabulary. -/
theorem sessionTranscript_mem (hI : ∀ r s, P r → I s → I (h r s).2)
    {ps : List (Dialogue Req Resp Err α)} (hps : ∀ p ∈ ps, p.Asks P) {s : σ} (hs : I s)
    {t : Turn Req Resp Err σ} (ht : t ∈ sessionTranscript h ps s) :
    I t.before ∧ P t.request ∧ h t.request t.before = (t.reply, t.after) := by
  induction ps generalizing s with
  | nil => cases ht
  | cons p ps ih =>
    rcases List.mem_append.mp ht with ht | ht
    · exact transcript_mem hI (hps p List.mem_cons_self) hs ht
    · exact ih (fun q hq => hps q (List.mem_cons_of_mem p hq))
        (run_invariant hI (hps p List.mem_cons_self) hs) ht

end Invariant

/-! ## Lines

A line is a program without choices. It makes the listed requests in order, as long as
each reply is accepted, and returns if the last reply passes a check as well. -/

section Line

/-- `p` is a line of the requests `rs`. -/
inductive Line (accepts : Req → Resp → Prop) (check : Resp → Prop) :
    List Req → Dialogue Req Resp Err α → Prop
  | last {r : Req} {k : Resp → Dialogue Req Resp Err α}
      (hpass : ∀ x, accepts r x → check x → ∃ a, k x = done a)
      (hfail : ∀ x, ¬ (accepts r x ∧ check x) → ∃ e, k x = fail e) :
      Line accepts check [r] (ask r k)
  | step {r : Req} {rs : List Req} {k : Resp → Dialogue Req Resp Err α}
      (hstep : ∀ x, accepts r x → Line accepts check rs (k x))
      (hfail : ∀ x, ¬ accepts r x → ∃ e, k x = fail e) : Line accepts check (r :: rs) (ask r k)

/-- The request was made, and its reply accepted. -/
def Turn.Accepted (accepts : Req → Resp → Prop) (t : Turn Req Resp Err σ) : Prop :=
  ∃ x, t.reply = .ok x ∧ accepts t.request x

/-- What the turns of a line are: the first requests of the list, all but the last of
them accepted; and the line returns when none is left, all of them were, and the last
reply passes. -/
structure Gates (accepts : Req → Resp → Prop) (check : Resp → Prop) (rs : List Req)
    (turns : List (Turn Req Resp Err σ)) (returned : Prop) : Prop where
  requests : turns.map Turn.request <+: rs
  gate : ∀ t ∈ turns.dropLast, t.Accepted accepts
  returns : returned ↔ turns.map Turn.request = rs ∧ (∀ t ∈ turns, t.Accepted accepts) ∧
    ∀ t ∈ turns.getLast?, ∀ x, t.reply = .ok x → check x

variable {accepts : Req → Resp → Prop} {check : Resp → Prop} {rs : List Req}

/-- What is done with the final reply does not matter to the exchanges. -/
theorem Line.map {p : Dialogue Req Resp Err α} (hp : Line accepts check rs p) (g : α → β) :
    Line accepts check rs (p >>= fun a => done (g a)) := by
  induction hp with
  | last hpass hfail =>
    refine .last (fun x hx hc => ?_) fun x hx => ?_
    · obtain ⟨a, ha⟩ := hpass x hx hc
      exact ⟨g a, by rw [ha]; rfl⟩
    · obtain ⟨e, he⟩ := hfail x hx
      exact ⟨e, by rw [he]; rfl⟩
  | step hstep hfail ih =>
    refine .step ih fun x hx => ?_
    obtain ⟨e, he⟩ := hfail x hx
    exact ⟨e, by rw [he]; rfl⟩

/-- A line has at least one exchange, so a run of it leaves at least one turn. -/
theorem Line.transcript_ne_nil {p : Dialogue Req Resp Err α} (hp : Line accepts check rs p)
    (h : Handler Req Resp Err σ) (s : σ) : transcript h p s ≠ [] := by
  cases hp <;> simp [transcript]

/-- A single turn that ends the line, one way or the other. -/
theorem Gates.single {r : Req} {rs : List Req} {t : Turn Req Resp Err σ} {returned : Prop}
    (hr : t.request = r) (hreturned : returned ↔
      rs = [] ∧ t.Accepted accepts ∧ ∀ x, t.reply = .ok x → check x) :
    Gates accepts check (r :: rs) [t] returned where
  requests := by simp [hr]
  gate := by simp
  returns := by simp [hr, hreturned, eq_comm]

/-- An accepted turn, and the turns of the rest of the line. -/
theorem Gates.cons {t : Turn Req Resp Err σ} {turns : List (Turn Req Resp Err σ)}
    {returned : Prop} (ht : t.Accepted accepts) (hne : turns ≠ [])
    (h : Gates accepts check rs turns returned) :
    Gates accepts check (t.request :: rs) (t :: turns) returned where
  requests := by simpa using h.requests
  gate := by
    rw [List.dropLast_cons_of_ne_nil hne]
    exact List.forall_mem_cons.mpr ⟨ht, h.gate⟩
  returns := by
    have hlast : (t :: turns).getLast? = turns.getLast? := by
      cases turns with
      | nil => exact absurd rfl hne
      | cons t' turns => exact List.getLast?_cons_cons
    rw [h.returns, hlast]
    simp [ht]

/-- **A line is gated.** The induction is on the line; where a reply is an error or is
not accepted the run ends with that turn. -/
theorem Line.gates {p : Dialogue Req Resp Err α} (hp : Line accepts check rs p)
    (h : Handler Req Resp Err σ) (s : σ) :
    Gates accepts check rs (transcript h p s) (∃ a, (run h p s).1 = .ok a) := by
  induction hp generalizing s with
  | @last r k hpass hfail =>
    rw [transcript]
    cases hx : (h r s).1 with
    | error e =>
      rw [run_ask_error hx]
      exact .single rfl (by simp [Turn.Accepted])
    | ok x =>
      rw [run_ask_ok hx]
      by_cases hgood : accepts r x ∧ check x
      · obtain ⟨a, ha⟩ := hpass x hgood.1 hgood.2
        simp only [ha, transcript, run_done]
        exact .single rfl (by simp [Turn.Accepted, hgood])
      · obtain ⟨e, he⟩ := hfail x hgood
        simp only [he, transcript, run_fail]
        exact .single rfl (by simpa [Turn.Accepted] using hgood)
  | @step r rs k hstep hfail ih =>
    rw [transcript]
    cases hx : (h r s).1 with
    | error e =>
      rw [run_ask_error hx]
      exact .single rfl (by simp [Turn.Accepted])
    | ok x =>
      rw [run_ask_ok hx]
      by_cases hgood : accepts r x
      · exact Gates.cons (t := ⟨s, r, .ok x, (h r s).2⟩) ⟨x, rfl, hgood⟩
          ((hstep x hgood).transcript_ne_nil h _) (ih x hgood _)
      · obtain ⟨e, he⟩ := hfail x hgood
        simp only [he, transcript, run_fail]
        exact .single rfl (by simp [Turn.Accepted, hgood])

end Line

/-- A record that every exchange appends to: a run appends what its turns append. -/
theorem run_record {γ : Type*} {h : Handler Req Resp Err σ} (record : σ → List γ)
    (hrecord : ∀ r s, record s <+: record (h r s).2) (p : Dialogue Req Resp Err α) (s : σ) :
    record (run h p s).2 = record s ++ (transcript h p s).flatMap fun t =>
      (record t.after).drop (record t.before).length := by
  induction p generalizing s with
  | done a => simp [transcript]
  | fail e => simp [transcript]
  | ask r k ih =>
    have hstep : record s ++ (record (h r s).2).drop (record s).length = record (h r s).2 :=
      List.prefix_iff_eq_append.mp (hrecord r s)
    cases hx : (h r s).1 with
    | error e => simp [run_ask_error hx, transcript, hx, hstep]
    | ok x =>
      rw [run_ask_ok hx, ih, transcript, List.flatMap_cons, ← List.append_assoc, hstep, hx]

/-! ## Total correctness -/

section Achieves

variable {h : Handler Req Resp Err σ} {pre : σ → Prop}

/-- From every state of `pre` the program returns normally, and `post` holds of
its value and the state it leaves. -/
def Achieves (h : Handler Req Resp Err σ) (pre : σ → Prop) (p : Dialogue Req Resp Err α)
    (post : α → σ → Prop) : Prop :=
  ∀ s, pre s → ∃ a s', run h p s = (.ok a, s') ∧ post a s'

/-- A program that only returns achieves what already holds. -/
theorem Achieves.done {a : α} {post : α → σ → Prop} (hpost : ∀ s, pre s → post a s) :
    Achieves h pre (done a) post :=
  fun s hs => ⟨a, s, rfl, hpost s hs⟩

/-- The rule of sequence for runs that return: the second part is to be judged from what the first
achieves, for the value it returned. -/
theorem Achieves.bind {p : Dialogue Req Resp Err α} {f : α → Dialogue Req Resp Err β}
    {mid : α → σ → Prop} {post : β → σ → Prop} (hp : Achieves h pre p mid)
    (hf : ∀ a, Achieves h (mid a) (f a) post) : Achieves h pre (p >>= f) post := by
  intro s hs
  obtain ⟨a, s₁, hrun, hmid⟩ := hp s hs
  obtain ⟨b, s', hrest, hpost⟩ := hf a s₁ hmid
  exact ⟨b, s', run_bind_eq_ok.mpr ⟨a, s₁, hrun, hrest⟩, hpost⟩

/-- What is achieved may be weakened, with the precondition as it is. -/
theorem Achieves.weaken {p : Dialogue Req Resp Err α} {post post' : α → σ → Prop}
    (hp : Achieves h pre p post) (hpost : ∀ a s, post a s → post' a s) :
    Achieves h pre p post' := by
  intro s hs
  obtain ⟨a, s', hrun, hpost'⟩ := hp s hs
  exact ⟨a, s', hrun, hpost a s' hpost'⟩

end Achieves

/-! ## Partial correctness -/

section Ensures

variable {h : Handler Req Resp Err σ} {pre : σ → Prop}

/-- Where the program returns normally from a state of `pre`, `post` holds of its
value and the state it leaves. -/
def Ensures (h : Handler Req Resp Err σ) (pre : σ → Prop) (p : Dialogue Req Resp Err α)
    (post : α → σ → Prop) : Prop :=
  ∀ s a s', pre s → run h p s = (.ok a, s') → post a s'

/-- A program that only returns ensures what already holds. -/
theorem Ensures.done {a : α} {post : α → σ → Prop} (hpost : ∀ s, pre s → post a s) :
    Ensures h pre (done a) post := by
  intro s b s' hs hrun
  obtain ⟨ha, rfl⟩ := Prod.mk.inj hrun
  obtain rfl := Except.ok.inj ha
  exact hpost s hs

/-- The rule of sequence for what holds if a run returns: where the first part fails there is
nothing to show. -/
theorem Ensures.bind {p : Dialogue Req Resp Err α} {f : α → Dialogue Req Resp Err β}
    {mid : α → σ → Prop} {post : β → σ → Prop} (hp : Ensures h pre p mid)
    (hf : ∀ a, Ensures h (mid a) (f a) post) : Ensures h pre (p >>= f) post := by
  intro s b s' hs hrun
  obtain ⟨a, s₁, hfirst, hrest⟩ := run_bind_eq_ok.mp hrun
  exact hf a s₁ b s' (hp s a s₁ hs hfirst) hrest

/-- A program says nothing of its value by ending. -/
theorem Ensures.trivial (p : Dialogue Req Resp Err α) : Ensures h pre p fun _ _ => True :=
  fun _ _ _ _ _ => True.intro

/-- What every exchange preserves holds where the program returns. The invariant rule, in the form
that `Ensures.bind` composes. -/
theorem Ensures.of_invariant {I : σ → Prop} {P : Req → Prop}
    (hI : ∀ r s, P r → I s → I (h r s).2) {p : Dialogue Req Resp Err α} (hp : p.Asks P) :
    Ensures h I p fun _ s => I s := by
  intro s a s' hs hrun
  have hpres := run_invariant hI hp hs
  rw [hrun] at hpres
  exact hpres

end Ensures

section Relation

variable {h₁ : Handler Req Resp Err σ} {h₂ : Handler Req Resp Err τ} {R : σ → τ → Prop}
  {P : Req → Prop}

/-- The two-partner rule: partners that answer related states alike, and stay
related, are told apart by no program. -/
theorem run_rel
    (hR : ∀ r s t, P r → R s t → (h₁ r s).1 = (h₂ r t).1 ∧ R (h₁ r s).2 (h₂ r t).2)
    {p : Dialogue Req Resp Err α} (hp : p.Asks P) {s : σ} {t : τ} (hst : R s t) :
    (run h₁ p s).1 = (run h₂ p t).1 ∧ R (run h₁ p s).2 (run h₂ p t).2 := by
  induction p generalizing s t with
  | done a => exact ⟨rfl, hst⟩
  | fail e => exact ⟨rfl, hst⟩
  | ask r k ih =>
    obtain ⟨heq, hrel⟩ := hR r s t hp.1 hst
    cases hx : (h₁ r s).1 with
    | ok x =>
      rw [run_ask_ok hx, run_ask_ok (heq ▸ hx)]
      exact ih x (hp.2 x) hrel
    | error e =>
      rw [run_ask_error hx, run_ask_error (heq ▸ hx)]
      exact ⟨rfl, hrel⟩

/-- And no session tells such partners apart: program by program the results are equal and the
states stay related. -/
theorem session_rel
    (hR : ∀ r s t, P r → R s t → (h₁ r s).1 = (h₂ r t).1 ∧ R (h₁ r s).2 (h₂ r t).2)
    {ps : List (Dialogue Req Resp Err α)} (hps : ∀ p ∈ ps, p.Asks P) {s : σ} {t : τ}
    (hst : R s t) :
    List.Forall₂ (fun a b => a.1 = b.1 ∧ R a.2 b.2) (session h₁ ps s) (session h₂ ps t) := by
  induction ps generalizing s t with
  | nil => exact .nil
  | cons p ps ih =>
    have hp := run_rel hR (hps p List.mem_cons_self) hst
    exact .cons hp (ih (fun q hq => hps q (List.mem_cons_of_mem p hq)) hp.2)

end Relation

end Dialogue
