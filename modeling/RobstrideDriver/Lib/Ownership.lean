/-
Ownership: programs that get resources from a partner and give them back.

Which requests bring a resource, use one or give one back is a matter of the protocol
(`Resources`). The partner keeps a table of all that is out, and it remembers if it was ever
asked for something on a resource that is not (`ledger`). What is asked of it is that it
never hands out what is out already (`Fresh`).

`Keeps` says of a program what it holds when it returns and when it fails, and that it
touches nothing but what it holds. It has a rule for every form of program, and one for
clean-up after a failure, so that a program is checked against it by following its text;
`Keeps.run` is what it comes to: in a run against any such partner the table is what the
program holds and what was there before, and nothing has been misused.
-/
import RobstrideDriver.Lib.Dialogue

set_option autoImplicit false

namespace Dialogue

variable {Req Resp Err Id α β : Type} {σ : Type*}

/-- What requests do to resources. -/
structure Resources (Req Resp Id : Type) where
  acquired : Req → Resp → List Id
  used : Req → List Id
  released : Req → Option Id

/-- What is out. -/
structure Ledger (σ : Type*) (Id : Type) where
  world : σ
  table : List Id
  misused : Bool := false

section Programs

variable [DecidableEq Id] (R : Resources Req Resp Id)

/-- The holder's side of a request. -/
def Resources.after (r : Req) (x : Resp) (held : List Id) : List Id :=
  R.acquired r x ++ (R.released r).elim held held.erase

/-- A request may be made by who holds this. -/
def Resources.Permits (held : List Id) (r : Req) : Prop :=
  (∀ i ∈ R.used r, i ∈ held) ∧ ∀ i ∈ R.released r, i ∈ held

instance (held : List Id) : DecidablePred (R.Permits held) :=
  fun _ => inferInstanceAs (Decidable (_ ∧ _))

/-- A partner that keeps the table. -/
def ledger (h : Req → List Id → σ → Resp × σ) : Handler Req Resp Err (Ledger σ Id) :=
  fun r s =>
    (.ok (h r s.table s.world).1,
      { world := (h r s.table s.world).2
        table := R.after r (h r s.table s.world).1 s.table
        misused := s.misused || !decide (R.Permits s.table r) })

/-- What is handed out was not out. -/
def Fresh (h : Req → List Id → σ → Resp × σ) : Prop :=
  ∀ r table w, table.Nodup → (R.acquired r (h r table w).1 ++ table).Nodup

/-- Cleans up if a program fails, and lets the error pass. -/
def guarded (p : Dialogue Req Resp Err α) (cleanup : Dialogue Req Resp Err Unit) :
    Dialogue Req Resp Err α :=
  match p with
  | done a => done a
  | fail e => cleanup >>= fun _ => fail e
  | ask r k => ask r fun x => (k x).guarded cleanup

/-- A program that holds `held`, and in the end what `post` says, or `lost` if it fails. -/
inductive Keeps (post : α → List Id) (lost : List Id) : List Id → Dialogue Req Resp Err α → Prop
  | done {held : List Id} {a : α} (h : held.Perm (post a)) : Keeps post lost held (done a)
  | fail {held : List Id} (e : Err) (h : held.Perm lost) : Keeps post lost held (fail e)
  | ask {held : List Id} {r : Req} {k : Resp → Dialogue Req Resp Err α}
      (hpermits : R.Permits held r) (hk : ∀ x, Keeps post lost (R.after r x held) (k x)) :
      Keeps post lost held (ask r k)

variable {R} {post : α → List Id} {lost held held' : List Id} {p : Dialogue Req Resp Err α}

/-- What is held after a request depends on what was held before, not on the order in which it is
listed. -/
theorem Resources.after_perm (h : held.Perm held') (r : Req) (x : Resp) :
    (R.after r x held).Perm (R.after r x held') := by
  unfold Resources.after
  apply List.Perm.append_left
  cases R.released r with
  | none => exact h
  | some i => exact h.erase i

omit [DecidableEq Id] in
/-- Whoever holds more is permitted no less. -/
theorem Resources.Permits.mono (h : ∀ i ∈ held, i ∈ held') {r : Req} (hr : R.Permits held r) :
    R.Permits held' r :=
  ⟨fun i hi => h i (hr.1 i hi), fun i hi => h i (hr.2 i hi)⟩

/-- A request that is permitted, by itself: what is held after it is what the reply makes of it. -/
theorem Keeps.request {r : Req} (hpermits : R.Permits held r) :
    Keeps R (fun x => R.after r x held) lost held (request r : Dialogue Req Resp Err Resp) :=
  .ask hpermits fun _ => .done (List.Perm.refl _)

/-- The order does not matter in which the resources held are listed. -/
theorem Keeps.perm (hp : Keeps R post lost held p) (h : held.Perm held') :
    Keeps R post lost held' p := by
  induction hp generalizing held' with
  | done hpost => exact .done (h.symm.trans hpost)
  | fail e hlost => exact .fail e (h.symm.trans hlost)
  | ask hpermits _ ih =>
    refine .ask (hpermits.mono fun i hi => h.mem_iff.mp hi) ?_
    intro x
    exact ih x (Resources.after_perm h _ x)

/-- The rule of sequence: the second part starts with what the first holds after it, for the value
it returned, and both lose the same when they fail. -/
theorem Keeps.bind (hp : Keeps R post lost held p) {post' : β → List Id}
    {f : α → Dialogue Req Resp Err β} (hf : ∀ a, Keeps R post' lost (post a) (f a)) :
    Keeps R post' lost held (p >>= f) := by
  induction hp with
  | done hpost => exact (hf _).perm hpost.symm
  | fail e hlost => exact .fail e hlost
  | ask hpermits _ ih => exact .ask hpermits ih

/-- What a failure leaves is cleaned up: if the handler gives back what the guarded part may still
hold when it fails, nothing is lost by the whole. -/
theorem Keeps.guarded {left : List Id} (hp : Keeps R post left held p)
    {cleanup : Dialogue Req Resp Err Unit} (hcleanup : Keeps R (fun _ => lost) lost left cleanup) :
    Keeps R post lost held (p.guarded cleanup) := by
  induction hp with
  | done hpost => exact .done hpost
  | fail e hleft =>
    exact (hcleanup.perm hleft.symm).bind fun _ => .fail e (List.Perm.refl _)
  | ask hpermits _ ih => exact .ask hpermits ih

/-! ## What a run comes to -/

/-- The table is `held` and what was there before, and nothing has been misused. -/
structure Balanced (frame held : List Id) (s : Ledger σ Id) : Prop where
  table : s.table.Perm (held ++ frame)
  nodup : s.table.Nodup
  misused : s.misused = false

/-- What a program leaves. -/
def leaves (post : α → List Id) (lost : List Id) : Except Err α → List Id
  | .ok a => post a
  | .error _ => lost

variable {h : Req → List Id → σ → Resp × σ} {frame : List Id} {s : Ledger σ Id}

omit [DecidableEq Id] in
/-- The account is kept of what is held, in whatever order. -/
theorem Balanced.perm (hs : Balanced frame held s) (hheld : held.Perm held') :
    Balanced frame held' s :=
  ⟨hs.table.trans (hheld.append_right frame), hs.nodup, hs.misused⟩

/-- **One request** that is permitted keeps the account: what it acquires was not open before, and
what it gives up was held. -/
theorem Balanced.step (hfresh : Fresh R h) (hs : Balanced frame held s) {r : Req}
    (hr : R.Permits held r) :
    Balanced frame (R.after r (h r s.table s.world).1 held)
      ((ledger R h : Handler Req Resp Err (Ledger σ Id)) r s).2 := by
  have hpermits : R.Permits s.table r :=
    hr.mono fun i hi => hs.table.mem_iff.mpr (List.mem_append_left _ hi)
  refine ⟨?_, ?_, ?_⟩
  · refine (Resources.after_perm hs.table r _).trans ?_
    unfold Resources.after
    rw [List.append_assoc]
    apply List.Perm.append_left
    cases hreleased : R.released r with
    | none => exact List.Perm.refl _
    | some i =>
      have hi := hr.2 i (Option.mem_def.mpr hreleased)
      simp only [Option.elim_some]
      rw [List.erase_append_left _ hi]
  · have hnodup := hfresh r s.table s.world hs.nodup
    refine hnodup.sublist (List.Sublist.append_left ?_ _)
    cases R.released r with
    | none => exact List.Sublist.refl _
    | some i => exact List.erase_sublist
  · simp [ledger, hs.misused, hpermits]

/-- **A program that keeps its resources does so in every run**: the account is kept to the end,
with what the program says it holds then, returned or failed. -/
theorem Keeps.run (hfresh : Fresh R h) (hp : Keeps R post lost held p)
    (hs : Balanced frame held s) :
    Balanced frame (leaves post lost (run (ledger R h) p s).1) (run (ledger R h) p s).2 := by
  induction hp generalizing s with
  | done hpost => exact hs.perm hpost
  | fail e hlost => exact hs.perm hlost
  | @ask held r k hpermits _ ih =>
    have hreply : ((ledger R h : Handler Req Resp Err (Ledger σ Id)) r s).1
        = .ok (h r s.table s.world).1 := rfl
    rw [run_ask_ok hreply]
    exact ih _ (hs.step hfresh hpermits)

end Programs

end Dialogue
