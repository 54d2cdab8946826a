/-
Loops that start over, and calls that are interrupted.

A loop is given by one pass: from a state it is over with a result, or goes on from
another state. `Ends` is what the loop comes to, `run` the same with a bound on the
passes, to be evaluated.

What every pass keeps holds at the end (`Ends.invariant`), and a loop whose passes lower
a rank has an end (`run_of_rank`). Two loops come to the same when the passes of the one
are those of the other with idle passes between them, finitely many at a time
(`Stutters`): then `Stutters.ends`, up to a relation between the results.

A partner whose calls may be interrupted is its state together with what becomes of the
calls to come (`Interrupted`). An interrupted call fails and leaves the partner as it
was, so a loop that makes it again stutters, and the number of calls spoken for is the
rank that bounds it.
-/
import Mathlib

set_option autoImplicit false

namespace Retry

/-! ## Loops -/

/-- How one pass of a loop ends. -/
inductive Pass (α β : Type*) where
  | stop (b : β)
  | again (a : α)
deriving DecidableEq, Repr

section Loops

variable {α β α' β' γ γ' : Type*}

/-- The result of a loop that is over within so many passes. -/
def run (pass : α → Pass α β) : ℕ → α → Option β
  | 0, _ => none
  | n + 1, a =>
    match pass a with
    | .stop b => some b
    | .again a' => run pass n a'

/-- The loop begun in `a` ends with `b`. -/
inductive Ends (pass : α → Pass α β) : α → β → Prop
  | stop {a : α} {b : β} : pass a = .stop b → Ends pass a b
  | again {a a' : α} {b : β} : pass a = .again a' → Ends pass a' b → Ends pass a b

/-- A loop that ends does so within some number of passes, and the other way round. -/
theorem ends_iff_run {pass : α → Pass α β} {a : α} {b : β} :
    Ends pass a b ↔ ∃ passes, run pass passes a = some b := by
  constructor
  · intro h
    induction h with
    | stop hp => exact ⟨1, by rw [run, hp]⟩
    | again hp _ ih =>
      obtain ⟨passes, hrun⟩ := ih
      exact ⟨passes + 1, by rw [run, hp]; exact hrun⟩
  · rintro ⟨passes, hrun⟩
    induction passes generalizing a with
    | zero => cases hrun
    | succ passes ih =>
      rw [run] at hrun
      cases hp : pass a with
      | stop b' =>
        rw [hp] at hrun
        obtain rfl := Option.some.inj hrun
        exact .stop hp
      | again a' =>
        rw [hp] at hrun
        exact .again hp (ih hrun)

/-- A loop ends in one way only, as its passes are functions. -/
theorem Ends.unique {pass : α → Pass α β} {a : α} {b b' : β} (h : Ends pass a b)
    (h' : Ends pass a b') : b = b' := by
  induction h with
  | stop hp =>
    cases h' with
    | stop hp' => exact Pass.stop.inj (hp.symm.trans hp')
    | again hp' _ => cases hp.symm.trans hp'
  | again hp _ ih =>
    cases h' with
    | stop hp' => cases hp.symm.trans hp'
    | again hp' h' =>
      obtain rfl := Pass.again.inj (hp.symm.trans hp')
      exact ih h'

/-! ## Invariants -/

section Invariants

variable {pass : α → Pass α β} {I : α → Prop} {Q : β → Prop}

/-- The rule of the invariant for loops: what every pass keeps holds when the last one is made, and
the result says what `stop` makes of it. That the loop ends is a premise here. -/
theorem Ends.invariant (hstop : ∀ a b, I a → pass a = .stop b → Q b)
    (hagain : ∀ a a', I a → pass a = .again a' → I a') {a : α} {b : β} (h : Ends pass a b)
    (ha : I a) : Q b := by
  induction h with
  | stop hp => exact hstop _ _ ha hp
  | again hp _ ih => exact ih (hagain _ _ ha hp)

/-- And with a rank that every pass lowers the loop ends, within as many passes as the rank is at
the start, with what the invariant says of its result. -/
theorem run_of_rank (rank : α → ℕ) (hstop : ∀ a b, I a → pass a = .stop b → Q b)
    (hagain : ∀ a a', I a → pass a = .again a' → I a' ∧ rank a' < rank a) {a : α} (ha : I a)
    {passes : ℕ} (hpasses : rank a < passes) : ∃ b, run pass passes a = some b ∧ Q b := by
  induction passes generalizing a with
  | zero => exact absurd hpasses (Nat.not_lt_zero _)
  | succ passes ih =>
    rw [run]
    cases hp : pass a with
    | stop b => exact ⟨b, rfl, hstop a b ha hp⟩
    | again a' =>
      obtain ⟨ha', hless⟩ := hagain a a' ha hp
      exact ih ha' (by omega)

end Invariants

/-! ## Outcomes that correspond -/

/-- Each outcome on one side has a counterpart on the other. -/
def Corresponds (S : β → β' → Prop) (P : β → Prop) (P' : β' → Prop) : Prop :=
  (∀ b, P b → ∃ b', P' b' ∧ S b b') ∧ ∀ b', P' b' → ∃ b, P b ∧ S b b'

/-- What is done next, done on both sides: loops that correspond go on to correspond. -/
theorem Corresponds.bind {S : β → β' → Prop} {T : γ → γ' → Prop} {P : β → Prop} {P' : β' → Prop}
    (h : Corresponds S P P') {F : β → γ → Prop} {F' : β' → γ' → Prop}
    (hF : ∀ b b', S b b' → Corresponds T (F b) (F' b')) :
    Corresponds T (fun c => ∃ b, P b ∧ F b c) (fun c' => ∃ b', P' b' ∧ F' b' c') := by
  constructor
  · rintro c ⟨b, hb, hc⟩
    obtain ⟨b', hb', hS⟩ := h.1 b hb
    obtain ⟨c', hc', hT⟩ := (hF b b' hS).1 c hc
    exact ⟨c', ⟨b', hb', hc'⟩, hT⟩
  · rintro c' ⟨b', hb', hc'⟩
    obtain ⟨b, hb, hS⟩ := h.2 b' hb'
    obtain ⟨c, hc, hT⟩ := (hF b b' hS).2 c' hc'
    exact ⟨c, ⟨b, hb, hc⟩, hT⟩

/-- What is made of the outcomes, made on both sides, keeps the correspondence. -/
theorem Corresponds.map {S : β → β' → Prop} {T : γ → γ' → Prop} {P : β → Prop} {P' : β' → Prop}
    (h : Corresponds S P P') {f : β → γ} {f' : β' → γ'} (hf : ∀ b b', S b b' → T (f b) (f' b')) :
    Corresponds T (fun c => ∃ b, P b ∧ c = f b) (fun c' => ∃ b', P' b' ∧ c' = f' b') := by
  refine h.bind fun b b' hS => ?_
  constructor
  · rintro c rfl
    exact ⟨f' b', rfl, hf b b' hS⟩
  · rintro c' rfl
    exact ⟨f b, rfl, hf b b' hS⟩

/-! ## Idle passes -/

/-- Two passes that end alike. -/
inductive Matched (R : α → α' → Prop) (S : β → β' → Prop) : Pass α β → Pass α' β' → Prop
  | stop {b : β} {b' : β'} : S b b' → Matched R S (.stop b) (.stop b')
  | again {a : α} {a' : α'} : R a a' → Matched R S (.again a) (.again a')

/-- If the left pass is the last one of its loop, so is the right pass, with a related result. -/
theorem Matched.stop_left {R : α → α' → Prop} {S : β → β' → Prop} {b : β} {p' : Pass α' β'}
    (h : Matched R S (.stop b) p') : ∃ b', p' = .stop b' ∧ S b b' := by
  cases h with
  | stop hS => exact ⟨_, rfl, hS⟩

/-- If the left pass goes on, so does the right pass, in a related state. -/
theorem Matched.again_left {R : α → α' → Prop} {S : β → β' → Prop} {a : α} {p' : Pass α' β'}
    (h : Matched R S (.again a) p') : ∃ a', p' = .again a' ∧ R a a' := by
  cases h with
  | again hR => exact ⟨_, rfl, hR⟩

/-- If the right pass is the last one of its loop, so is the left pass, with a related result. -/
theorem Matched.stop_right {R : α → α' → Prop} {S : β → β' → Prop} {p : Pass α β} {b' : β'}
    (h : Matched R S p (.stop b')) : ∃ b, p = .stop b ∧ S b b' := by
  cases h with
  | stop hS => exact ⟨_, rfl, hS⟩

/-- If the right pass goes on, so does the left pass, in a related state. -/
theorem Matched.again_right {R : α → α' → Prop} {S : β → β' → Prop} {p : Pass α β} {a' : α'}
    (h : Matched R S p (.again a')) : ∃ a, p = .again a ∧ R a a' := by
  cases h with
  | again hR => exact ⟨_, rfl, hR⟩

/-- In related states the second loop makes the pass of the first, or an idle one. -/
def Stutters (R : α → α' → Prop) (S : β → β' → Prop) (rank : α' → ℕ) (pass : α → Pass α β)
    (pass' : α' → Pass α' β') : Prop :=
  ∀ a a', R a a' → Matched R S (pass a) (pass' a') ∨
    ∃ a'', pass' a' = .again a'' ∧ R a a'' ∧ rank a'' < rank a'

variable {R : α → α' → Prop} {S : β → β' → Prop} {rank : α' → ℕ} {pass : α → Pass α β}
  {pass' : α' → Pass α' β'}

/-- The idle passes come to an end: the rank counts them down. -/
theorem Stutters.catch_up (h : Stutters R S rank pass pass') {a : α} {a' : α'} (hR : R a a') :
    ∃ a'', Matched R S (pass a) (pass' a'') ∧ ∀ b', Ends pass' a'' b' → Ends pass' a' b' := by
  induction hrank : rank a' using Nat.strongRecOn generalizing a' with
  | ind n ih =>
    rcases h a a' hR with hmatched | ⟨a₁, hidle, hR₁, hlt⟩
    · exact ⟨a', hmatched, fun _ hb' => hb'⟩
    · obtain ⟨a'', hmatched, hends⟩ := ih _ (hrank ▸ hlt) hR₁ rfl
      exact ⟨a'', hmatched, fun b' hb' => .again hidle (hends b' hb')⟩

/-- Where the loop without idle passes ends, the one with them ends too, with a related result:
after each idle pass the rank is less. -/
theorem Stutters.of_ends (h : Stutters R S rank pass pass') {a : α} {a' : α'} (hR : R a a') {b : β}
    (hb : Ends pass a b) : ∃ b', Ends pass' a' b' ∧ S b b' := by
  induction hb generalizing a' with
  | stop hp =>
    obtain ⟨a'', hmatched, hends⟩ := h.catch_up hR
    rw [hp] at hmatched
    obtain ⟨b', hp', hS⟩ := hmatched.stop_left
    exact ⟨b', hends b' (.stop hp'), hS⟩
  | again hp _ ih =>
    obtain ⟨a'', hmatched, hends⟩ := h.catch_up hR
    rw [hp] at hmatched
    obtain ⟨a₁, hp', hR₁⟩ := hmatched.again_left
    obtain ⟨b', hb', hS⟩ := ih hR₁
    exact ⟨b', hends b' (.again hp' hb'), hS⟩

/-- And where the loop with idle passes ends, the one without them has ended, with a related result,
for idle passes never end a loop. -/
theorem Stutters.of_ends' (h : Stutters R S rank pass pass') {a : α} {a' : α'} (hR : R a a')
    {b' : β'} (hb' : Ends pass' a' b') : ∃ b, Ends pass a b ∧ S b b' := by
  induction hb' generalizing a with
  | stop hp' =>
    rcases h _ _ hR with hmatched | ⟨a'', hidle, -, -⟩
    · rw [hp'] at hmatched
      obtain ⟨b, hp, hS⟩ := hmatched.stop_right
      exact ⟨b, .stop hp, hS⟩
    · cases hp'.symm.trans hidle
  | again hp' _ ih =>
    rcases h _ _ hR with hmatched | ⟨a'', hidle, hR₁, -⟩
    · rw [hp'] at hmatched
      obtain ⟨a₁, hp, hR₁⟩ := hmatched.again_right
      obtain ⟨b, hb, hS⟩ := ih hR₁
      exact ⟨b, .again hp hb, hS⟩
    · obtain rfl := Pass.again.inj (hp'.symm.trans hidle)
      exact ih hR₁

/-- **Idle passes are invisible**: of two loops that differ in idle passes only, both end or
neither, and the results are related. -/
theorem Stutters.ends (h : Stutters R S rank pass pass') {a : α} {a' : α'} (hR : R a a') :
    Corresponds S (Ends pass a) (Ends pass' a') :=
  ⟨fun _ hb => h.of_ends hR hb, fun _ hb' => h.of_ends' hR hb'⟩

/-- The same of loops that are run with a bound on their passes: some bound is enough for the one
exactly if some is enough for the other. -/
theorem Stutters.runs (h : Stutters R S rank pass pass') {a : α} {a' : α'} (hR : R a a') :
    Corresponds S (fun b => ∃ passes, run pass passes a = some b)
      (fun b' => ∃ passes, run pass' passes a' = some b') := by
  have hends := h.ends hR
  rw [Corresponds] at hends ⊢
  simp only [ends_iff_run] at hends
  exact hends

end Loops

/-! ## Interrupted calls -/

/-- What becomes of a call. -/
inductive Fate where
  | served
  | interrupted
deriving DecidableEq, Repr

/-- A partner, and what becomes of the calls to come; when the list is used up, all are
served. -/
structure Interrupted (σ : Type*) where
  state : σ
  fates : List Fate
deriving DecidableEq, Repr

/-- The next call is interrupted: what that says of the fates that are still to come. -/
theorem exists_eq_interrupted {fates : List Fate} (h : .interrupted ∈ fates.take 1) :
    ∃ rest, fates = .interrupted :: rest := by
  rcases fates with _ | ⟨_ | _, rest⟩
  · cases h
  · cases List.mem_singleton.mp h
  · exact ⟨rest, rfl⟩

namespace Interrupted

variable {σ α : Type*}

/-- A call that fails if it is interrupted. -/
def call (failure : α) (f : σ → α × σ) (s : Interrupted σ) : α × Interrupted σ :=
  match s.fates with
  | .interrupted :: fates => (failure, ⟨s.state, fates⟩)
  | .served :: fates => ((f s.state).1, ⟨(f s.state).2, fates⟩)
  | [] => ((f s.state).1, ⟨(f s.state).2, []⟩)

/-- What happens to the partner between two calls. -/
def map (f : σ → σ) (s : Interrupted σ) : Interrupted σ := ⟨f s.state, s.fates⟩

variable (failure : α) (f : σ → α × σ) (s : σ)

/-- A call that is not interrupted is served as if nothing ever were. -/
theorem call_served {fates : List Fate} (h : .interrupted ∉ fates.take 1) :
    call failure f ⟨s, fates⟩ = ((f s).1, ⟨(f s).2, fates.drop 1⟩) := by
  rcases fates with _ | ⟨_ | _, fates⟩
  · rfl
  · rfl
  · exact absurd List.mem_cons_self h

/-- A call is served, or it fails and there is one less to come. -/
theorem call_cases (fates : List Fate) :
    (∃ rest, rest.length ≤ fates.length ∧
        call failure f ⟨s, fates⟩ = ((f s).1, ⟨(f s).2, rest⟩)) ∨
      ∃ rest, rest.length < fates.length ∧ call failure f ⟨s, fates⟩ = (failure, ⟨s, rest⟩) := by
  rcases fates with _ | ⟨_ | _, fates⟩
  · exact .inl ⟨[], Nat.le_refl _, rfl⟩
  · exact .inl ⟨fates, Nat.le_succ _, rfl⟩
  · exact .inr ⟨fates, Nat.lt_succ_self _, rfl⟩

end Interrupted

end Retry
