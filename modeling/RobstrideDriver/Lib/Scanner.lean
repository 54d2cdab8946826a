/-
Incremental scanners: parsers that keep a buffer and are fed in pieces.

A scanner looks at the front of its buffer and decides one of three things: the
front is a token of so many bytes, the first byte belongs to no token, or more
bytes are needed before anything can be said. `poll` applies that until a token
or a wait; `drain` polls until a wait.

Everything here follows from one law, `look_append`: a decision other than
waiting stays the decision when more bytes arrive. Then a buffer may be drained
in the middle of a stream without consequence (`drain_append`), any schedule of
pushes and polls comes to the same tokens and the same buffer
(`exec_then_drain`), and bytes in front of a stream are scanned as if they stood
alone provided no decision about them reaches into the stream (`drain_resync`).
Each token stands for a contiguous piece of the stream, its lexeme
(`lexemes_poll_some`).
-/
import Mathlib

set_option autoImplicit false

/-- What the front of a nonempty buffer is. -/
inductive Scanner.Verdict (Tok : Type) where
  /-- Undecided: more bytes are needed. -/
  | wait
  /-- The first byte is dropped. -/
  | skip
  /-- A token; `more` bytes belong to it after the first. -/
  | emit (t : Tok) (more : ℕ)
deriving DecidableEq, Repr

structure Scanner (Byte Tok : Type) where
  look : List Byte → Scanner.Verdict Tok
  emit_lt : ∀ xs t n, look xs = .emit t n → n < xs.length
  look_append : ∀ xs ys, look xs ≠ .wait → look (xs ++ ys) = look xs

namespace Scanner

variable {Byte Tok : Type} (S : Scanner Byte Tok)

/-! ## Polling -/

/-- The next token, if the buffer holds one, and the buffer after. -/
def poll : List Byte → Option Tok × List Byte
  | [] => (none, [])
  | b :: bs =>
    match S.look (b :: bs) with
    | .wait => (none, b :: bs)
    | .skip => poll bs
    | .emit t n => (some t, bs.drop n)

variable {S}

/-- A position where more bytes are needed ends a poll, and nothing is lost. -/
theorem poll_wait {b : Byte} {bs : List Byte} (h : S.look (b :: bs) = .wait) :
    S.poll (b :: bs) = (none, b :: bs) := by
  rw [poll, h]

/-- A position where no token can begin is passed over, a byte at a time. -/
theorem poll_skip {b : Byte} {bs : List Byte} (h : S.look (b :: bs) = .skip) :
    S.poll (b :: bs) = S.poll bs := by
  rw [poll, h]

/-- A token is returned as soon as it is complete, and its bytes are gone. -/
theorem poll_emit {b : Byte} {bs : List Byte} {t : Tok} {n : ℕ}
    (h : S.look (b :: bs) = .emit t n) : S.poll (b :: bs) = (some t, bs.drop n) := by
  rw [poll, h]

/-- A token costs at least one byte, so polling on and on comes to an end. -/
theorem poll_length {xs rest : List Byte} {t : Tok} (h : S.poll xs = (some t, rest)) :
    rest.length < xs.length := by
  induction xs with
  | nil => cases h
  | cons b bs ih =>
    cases hl : S.look (b :: bs) with
    | wait =>
      rw [poll_wait hl] at h
      cases h
    | skip =>
      rw [poll_skip hl] at h
      exact Nat.lt_succ_of_lt (ih h)
    | emit t' n =>
      rw [poll_emit hl] at h
      obtain ⟨-, rfl⟩ := Prod.mk.inj h
      rw [List.length_drop, List.length_cons]
      omega

/-- A poll that finds nothing only drops bytes from the front: what is left is the end of what was
there. -/
theorem poll_none_suffix {xs rest : List Byte} (h : S.poll xs = (none, rest)) : rest <:+ xs := by
  induction xs with
  | nil =>
    obtain ⟨-, rfl⟩ := Prod.mk.inj h
    exact List.suffix_refl _
  | cons b bs ih =>
    cases hl : S.look (b :: bs) with
    | wait =>
      rw [poll_wait hl] at h
      obtain ⟨-, rfl⟩ := Prod.mk.inj h
      exact List.suffix_refl _
    | skip =>
      rw [poll_skip hl] at h
      exact (ih h).trans (List.suffix_cons b bs)
    | emit t n =>
      rw [poll_emit hl] at h
      cases h

/-- The skipped bytes of a buffer do not matter: polling what a poll has left is polling what there
was. -/
theorem poll_drop {xs : List Byte} {i : ℕ} (hi : i ≤ xs.length)
    (h : ∀ j < i, S.look (xs.drop j) = .skip) : S.poll xs = S.poll (xs.drop i) := by
  induction i generalizing xs with
  | zero => rw [List.drop_zero]
  | succ i ih =>
    cases xs with
    | nil => exact absurd hi (by simp)
    | cons b bs =>
      rw [poll_skip (h 0 (Nat.succ_pos i)), List.drop_succ_cons]
      exact ih (Nat.le_of_succ_le_succ hi) fun j hj => h (j + 1) (Nat.succ_lt_succ hj)

/-- Bytes that arrive behind a buffer change neither the token found in it nor,
if none is found, what is left to look at. -/
theorem poll_append (xs ys : List Byte) :
    S.poll (xs ++ ys)
      = match S.poll xs with
        | (some t, rest) => (some t, rest ++ ys)
        | (none, rest) => S.poll (rest ++ ys) := by
  induction xs with
  | nil => rfl
  | cons b bs ih =>
    cases hl : S.look (b :: bs) with
    | wait => rw [poll_wait hl]
    | skip =>
      have hl' : S.look (b :: (bs ++ ys)) = .skip :=
        (S.look_append (b :: bs) ys (by rw [hl]; exact nofun)).trans hl
      rw [poll_skip hl, List.cons_append, poll_skip hl', ih]
    | emit t n =>
      have hl' : S.look (b :: (bs ++ ys)) = .emit t n :=
        (S.look_append (b :: bs) ys (by rw [hl]; exact nofun)).trans hl
      -- the token lies in the first buffer
      have hn : n ≤ bs.length := Nat.le_of_lt_succ (S.emit_lt _ _ _ hl)
      rw [poll_emit hl, List.cons_append, poll_emit hl', List.drop_append_of_le_length hn]

/-- Polling again finds nothing more, as long as no byte comes. -/
theorem poll_none_poll {xs rest : List Byte} (h : S.poll xs = (none, rest)) :
    S.poll rest = (none, rest) := by
  have happend := poll_append (S := S) xs []
  rw [List.append_nil, h] at happend
  dsimp only at happend
  rw [List.append_nil] at happend
  exact happend.symm

/-! ## Draining -/

variable (S) in
/-- Polling until nothing comes: the tokens, and the buffer that is left. -/
def drain (xs : List Byte) : List Tok × List Byte :=
  match _h : S.poll xs with
  | (none, rest) => ([], rest)
  | (some t, rest) => (t :: (drain rest).1, (drain rest).2)
termination_by xs.length
decreasing_by all_goals exact poll_length _h

/-- Where a poll finds nothing, draining ends with what it leaves. -/
theorem drain_none {xs rest : List Byte} (h : S.poll xs = (none, rest)) :
    S.drain xs = ([], rest) := by
  rw [drain]
  split <;> simp_all

/-- Where a poll finds a token, draining goes on with what it leaves. -/
theorem drain_some {xs rest : List Byte} {t : Tok} (h : S.poll xs = (some t, rest)) :
    S.drain xs = (t :: (S.drain rest).1, (S.drain rest).2) := by
  rw [drain]
  split <;> simp_all

@[simp] theorem drain_nil : S.drain [] = ([], []) := drain_none rfl

/-- Draining half a stream first makes no difference: the tokens are those of the whole, and so is
what is left. -/
theorem drain_append (xs ys : List Byte) :
    S.drain (xs ++ ys)
      = ((S.drain xs).1 ++ (S.drain ((S.drain xs).2 ++ ys)).1,
          (S.drain ((S.drain xs).2 ++ ys)).2) := by
  induction xs using drain.induct S with
  | case1 xs rest h =>
    rw [drain_none h, List.nil_append]
    have hp := poll_append (S := S) xs ys
    rw [h] at hp
    -- what `poll` makes of the two buffers is the same, and so is the rest
    rcases hr : S.poll (rest ++ ys) with ⟨_ | t, rest'⟩
    · rw [drain_none (hp.trans hr), drain_none hr]
    · rw [drain_some (hp.trans hr), drain_some hr]
  | case2 xs t rest h ih =>
    have hp := poll_append (S := S) xs ys
    rw [h] at hp
    rw [drain_some h, drain_some hp, ih, List.cons_append]

/-! ## Schedules -/

/-- One call on an incremental scanner. -/
inductive Action (Byte : Type) where
  | push (chunk : List Byte)
  | poll
deriving DecidableEq, Repr

/-- The bytes a schedule pushes, in order. -/
def pushed : List (Action Byte) → List Byte
  | [] => []
  | .push chunk :: acts => chunk ++ pushed acts
  | .poll :: acts => pushed acts

variable (S) in
/-- A schedule from a buffer: the tokens its polls return, and the buffer left. -/
def exec : List (Action Byte) → List Byte → List Tok × List Byte
  | [], xs => ([], xs)
  | .push chunk :: acts, xs => exec acts (xs ++ chunk)
  | .poll :: acts, xs =>
    let (r, rest) := S.poll xs
    let (ts, out) := exec acts rest
    (r.toList ++ ts, out)

/-- Whatever the schedule, polling on to the end comes to the tokens and the
buffer of the whole stream. The induction is on the schedule; a poll in the
middle is `drain_append`'s first step. -/
theorem exec_then_drain (acts : List (Action Byte)) (xs : List Byte) :
    ((S.exec acts xs).1 ++ (S.drain (S.exec acts xs).2).1, (S.drain (S.exec acts xs).2).2)
      = S.drain (xs ++ pushed acts) := by
  induction acts generalizing xs with
  | nil => rw [exec, pushed, List.append_nil, List.nil_append]
  | cons act acts ih =>
    cases act with
    | push chunk =>
      rw [exec, pushed, ih, List.append_assoc]
    | poll =>
      have hp := poll_append (S := S) xs (pushed acts)
      rw [exec, pushed]
      rcases h : S.poll xs with ⟨_ | t, rest⟩
      · rw [h] at hp
        -- nothing found now: the poll only shortened the buffer
        have hd : S.drain (xs ++ pushed acts) = S.drain (rest ++ pushed acts) := by
          rw [drain_append xs, drain_none h, List.nil_append]
        rw [hd, ← ih]
        rfl
      · rw [h] at hp
        rw [drain_some hp, ← ih]
        rfl

/-! ## Bytes in front of a stream -/

/-- What a verdict becomes when no more bytes will come. -/
def Verdict.settle : Verdict Tok → Verdict Tok
  | .wait => .skip
  | v => v

/-- Settling decides only what was undecided. -/
theorem Verdict.settle_of_ne_wait {v : Verdict Tok} (h : v ≠ .wait) : v.settle = v := by
  cases v with
  | wait => exact absurd rfl h
  | skip => rfl
  | emit t more => rfl

variable (S) in
/-- The tokens inside a byte string that stands alone. -/
def tokens : List Byte → List Tok
  | [] => []
  | b :: bs =>
    match S.look (b :: bs) with
    | .emit t n => t :: tokens (bs.drop n)
    | _ => tokens bs
termination_by xs => xs.length
decreasing_by
  all_goals simp only [List.length_drop, List.length_cons]
  all_goals omega

/-- Resynchronisation: if every undecided position of `g` turns out to be no
token once `ys` is behind it, then `g` in front of `ys` is scanned as if it
stood alone, and `ys` as if nothing stood before it. -/
theorem drain_resync (ys : List Byte) (g : List Byte)
    (h : ∀ s, s ≠ [] → s <:+ g → S.look (s ++ ys) = (S.look s).settle) :
    S.drain (g ++ ys) = (S.tokens g ++ (S.drain ys).1, (S.drain ys).2) := by
  induction hn : g.length using Nat.strong_induction_on generalizing g with
  | _ n ih =>
    cases g with
    | nil => rw [tokens, List.nil_append, List.nil_append]
    | cons b bs =>
      have hlook := h (b :: bs) (List.cons_ne_nil _ _) (List.suffix_refl _)
      have hbs : ∀ s, s ≠ [] → s <:+ bs → S.look (s ++ ys) = (S.look s).settle :=
        fun s hne hs => h s hne (hs.trans (List.suffix_cons b bs))
      have hrec := ih bs.length (by rw [← hn]; exact Nat.lt_succ_self _) bs hbs rfl
      -- a skipped byte, wherever the decision came from
      have hskip : S.look (b :: (bs ++ ys)) = .skip →
          S.drain (b :: bs ++ ys) = (S.tokens bs ++ (S.drain ys).1, (S.drain ys).2) := by
        intro hs
        have hp := poll_skip hs
        rw [← hrec, List.cons_append]
        rcases hr : S.poll (bs ++ ys) with ⟨_ | t, rest⟩
        · rw [drain_none (hp.trans hr), drain_none hr]
        · rw [drain_some (hp.trans hr), drain_some hr]
      cases hl : S.look (b :: bs) with
      | wait =>
        rw [hl] at hlook
        rw [tokens, hl, hskip hlook]
      | skip =>
        rw [hl] at hlook
        rw [tokens, hl, hskip hlook]
      | emit t k =>
        rw [hl] at hlook
        have hk : k ≤ bs.length := Nat.le_of_lt_succ (S.emit_lt _ _ _ hl)
        have hp : S.poll (b :: bs ++ ys) = (some t, bs.drop k ++ ys) := by
          have hemit : S.look (b :: (bs ++ ys)) = .emit t k := hlook
          rw [List.cons_append, poll_emit hemit, List.drop_append_of_le_length hk]
        have hlen : (bs.drop k).length < n := by
          rw [← hn, List.length_drop, List.length_cons]
          omega
        -- behind the token a shorter string stands before `ys`
        have hdrop := ih _ hlen (bs.drop k)
          (fun s hne hs => hbs s hne (hs.trans (List.drop_suffix k bs))) rfl
        rw [tokens, hl, drain_some hp, hdrop]
        rfl

/-- A stream that begins with a token is drained by taking that and draining the rest. -/
theorem drain_token {xs ys : List Byte} {t : Tok} {n : ℕ} (h : S.look (xs ++ ys) = .emit t n)
    (hn : xs.length = n + 1) : S.drain (xs ++ ys) = (t :: (S.drain ys).1, (S.drain ys).2) := by
  cases xs with
  | nil => cases hn
  | cons b bs =>
    have hlen : bs.length = n := Nat.succ.inj hn
    have hemit : S.look (b :: (bs ++ ys)) = .emit t n := h
    apply drain_some
    rw [List.cons_append, poll_emit hemit, ← hlen, List.drop_left]

/-! ## Lexemes -/

variable (S) in
/-- The byte strings of the tokens of a stream, as far as the scanner gets. -/
def lexemes : List Byte → List (List Byte)
  | [] => []
  | b :: bs =>
    match S.look (b :: bs) with
    | .wait => []
    | .skip => lexemes bs
    | .emit _ n => (b :: bs.take n) :: lexemes (bs.drop n)
termination_by xs => xs.length
decreasing_by
  all_goals simp only [List.length_drop, List.length_cons]
  all_goals omega

/-- A poll that finds nothing leaves no lexeme, and loses none that later bytes may
complete. -/
theorem lexemes_poll_none {xs rest : List Byte} (h : S.poll xs = (none, rest)) :
    S.lexemes rest = [] ∧ ∀ ys, S.lexemes (xs ++ ys) = S.lexemes (rest ++ ys) := by
  induction xs with
  | nil =>
    obtain ⟨-, rfl⟩ := Prod.mk.inj h
    exact ⟨by rw [lexemes], fun ys => rfl⟩
  | cons b bs ih =>
    cases hl : S.look (b :: bs) with
    | wait =>
      rw [poll_wait hl] at h
      obtain ⟨-, rfl⟩ := Prod.mk.inj h
      exact ⟨by rw [lexemes, hl], fun ys => rfl⟩
    | skip =>
      rw [poll_skip hl] at h
      obtain ⟨hrest, happend⟩ := ih h
      refine ⟨hrest, fun ys => ?_⟩
      have hl' : S.look (b :: (bs ++ ys)) = .skip :=
        (S.look_append (b :: bs) ys (by rw [hl]; exact nofun)).trans hl
      rw [List.cons_append, lexemes, hl', happend]
    | emit t n =>
      rw [poll_emit hl] at h
      cases h

/-- **A token stands in the buffer**: behind some bytes of no token, and in front of
what the poll leaves, is the lexeme of the token, which is the first of the stream. -/
theorem lexemes_poll_some {xs rest : List Byte} {t : Tok} (h : S.poll xs = (some t, rest)) :
    ∃ gap lexeme n, xs = gap ++ lexeme ++ rest ∧ lexeme.length = n + 1 ∧
      S.look (lexeme ++ rest) = .emit t n ∧
      ∀ ys, S.lexemes (xs ++ ys) = lexeme :: S.lexemes (rest ++ ys) := by
  induction xs with
  | nil => cases h
  | cons b bs ih =>
    cases hl : S.look (b :: bs) with
    | wait =>
      rw [poll_wait hl] at h
      cases h
    | skip =>
      rw [poll_skip hl] at h
      obtain ⟨gap, lexeme, n, hbs, hlen, hlook, hlexemes⟩ := ih h
      refine ⟨b :: gap, lexeme, n, by rw [hbs]; rfl, hlen, hlook, fun ys => ?_⟩
      have hl' : S.look (b :: (bs ++ ys)) = .skip :=
        (S.look_append (b :: bs) ys (by rw [hl]; exact nofun)).trans hl
      rw [List.cons_append, lexemes, hl', hlexemes]
    | emit t' n =>
      rw [poll_emit hl] at h
      obtain ⟨ht, rfl⟩ := Prod.mk.inj h
      obtain rfl := Option.some.inj ht
      have hn : n ≤ bs.length := Nat.le_of_lt_succ (S.emit_lt _ _ _ hl)
      refine ⟨[], b :: bs.take n, n, ?_, ?_, ?_, fun ys => ?_⟩
      · rw [List.nil_append, List.cons_append, List.take_append_drop]
      · rw [List.length_cons, List.length_take, Nat.min_eq_left hn]
      · rw [List.cons_append, List.take_append_drop]
        exact hl
      · have hl' : S.look (b :: (bs ++ ys)) = .emit t' n :=
          (S.look_append (b :: bs) ys (by rw [hl]; exact nofun)).trans hl
        rw [List.cons_append, lexemes, hl']
        dsimp only
        rw [List.take_append_of_le_length hn, List.drop_append_of_le_length hn]

end Scanner
