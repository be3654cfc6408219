import NotebookGuard.Machine.Http
import Mathlib

/-!
# Retries of an HTTP request

A request is sent again after a refused connection or a retried status while
tries are left, pausing as `pauseAfter` says, and returns the verdict on its
last try. `Tries` states this of a list of tries and `go_tries` proves it of
the client's loop from any try on.
-/

namespace NotebookGuard.Proofs

open Machine

/-- One try of a request: the machine and time it was sent from, and the
machine, time and outcome it ended with. -/
structure Attempt where
  machine : Machine
  sentAt : Nat
  after : Machine
  endedAt : Nat
  outcome : Except String HttpAnswer

/-- Whether a try's outcome is worth another try: a failed transport, or a
status the client retries. -/
def Retryable (s : HttpSettings) : Except String HttpAnswer → Prop
  | .error _ => True
  | .ok a => a.status ∈ s.retryStatuses

instance (s : HttpSettings) : DecidablePred (Retryable s) := fun r =>
  match r with
  | .error _ => inferInstanceAs (Decidable True)
  | .ok a => inferInstanceAs (Decidable (a.status ∈ s.retryStatuses))

/-- The pause after try `k`, in milliseconds: the initial backoff after the
first try, then the initial backoff doubled `k` times, up to the limit. -/
def pauseAfter (s : HttpSettings) (k : Nat) : Nat :=
  if k = 0 then s.backoffMs else min (s.backoffMs * 2 ^ k) s.backoffMaxMs

/-- What a request returns after its last try: an answer whose status is `2xx`
or accepted by the caller, else a failure naming the method and the URL. -/
def verdict (method url : String) (ok : List Nat) : Except String HttpAnswer → Except String HttpAnswer
  | .error e => .error (method ++ " " ++ url ++ ": " ++ e)
  | .ok a =>
    if 200 ≤ a.status ∧ a.status < 300 ∨ a.status ∈ ok then .ok a
    else .error (method ++ " " ++ url ++ ": HTTP " ++ toString a.status)

/-! ### The pauses -/

/-- The pause after a try is the one before doubled, up to the limit. -/
lemma pauseAfter_succ (s : HttpSettings) (k : Nat) :
    min (2 * pauseAfter s k) s.backoffMaxMs = pauseAfter s (k + 1) := by
  have hpow : s.backoffMs * 2 ^ (k + 1) = 2 * (s.backoffMs * 2 ^ k) := by ring
  rcases Nat.eq_zero_or_pos k with rfl | hk
  · simp [pauseAfter, mul_comm]
  · simp only [pauseAfter, Nat.ne_of_gt hk, if_false, Nat.add_one_ne_zero, hpow]
    omega

/-- No pause is longer than the longer of the two backoffs. -/
lemma pauseAfter_le (s : HttpSettings) (k : Nat) : pauseAfter s k ≤ max s.backoffMs s.backoffMaxMs := by
  unfold pauseAfter
  split <;> omega

-- with the default settings: 350 ms, doubled after each try, up to five seconds
example : (List.range 6).map (pauseAfter {}) = [350, 700, 1400, 2800, 5000, 5000] := by decide

/-! ### Lists of tries -/

section Tries

variable (s : HttpSettings) (method url : String) (body : Option Json)

/-- The tries of a request sent from `m` at time `t`, the first counted as try
`k`: each is one send after the pause for its number, and a try is followed by
another exactly when it is worth retrying and its number is below the retries. -/
structure Tries (k : Nat) (m : Machine) (t : Nat) (ts : List Attempt) : Prop where
  starts : ∃ a rest, ts = a :: rest ∧ a.machine = m ∧ a.sentAt = t
  sends : ∀ a ∈ ts, a.machine.sendOnce a.sentAt method url body = (a.after, a.endedAt, a.outcome)
  chained : ∀ j a b, ts[j]? = some a → ts[j + 1]? = some b →
    b.machine = a.after ∧ b.sentAt = a.endedAt + pauseAfter s (k + j) * msNanos
  retried : ∀ j a, ts[j]? = some a → (j + 1 < ts.length ↔ Retryable s a.outcome ∧ k + j < s.maxRetries)

variable {s method url body}

lemma Tries.last {k : Nat} {a : Attempt}
    (hsend : a.machine.sendOnce a.sentAt method url body = (a.after, a.endedAt, a.outcome))
    (hstop : ¬ (Retryable s a.outcome ∧ k < s.maxRetries)) :
    Tries s method url body k a.machine a.sentAt [a] where
  starts := ⟨a, [], rfl, rfl, rfl⟩
  sends := by simpa using hsend
  chained := by simp
  retried := by
    intro j b hb
    cases j with
    | zero =>
      obtain rfl : a = b := by simpa using hb
      simpa using hstop
    | succ j => simp at hb

lemma Tries.cons {k : Nat} {a : Attempt} {ts : List Attempt}
    (hsend : a.machine.sendOnce a.sentAt method url body = (a.after, a.endedAt, a.outcome))
    (hretry : Retryable s a.outcome) (hk : k < s.maxRetries)
    (hts : Tries s method url body (k + 1) a.after (a.endedAt + pauseAfter s k * msNanos) ts) :
    Tries s method url body k a.machine a.sentAt (a :: ts) := by
  obtain ⟨b, rest, rfl, hbm, hbt⟩ := hts.starts
  refine ⟨⟨a, _, rfl, rfl, rfl⟩, ?_, ?_, ?_⟩
  · intro c hc
    rcases List.mem_cons.1 hc with rfl | hc
    · exact hsend
    · exact hts.sends c hc
  · intro j c d hc hd
    cases j with
    | zero =>
      obtain rfl : a = c := by simpa using hc
      obtain rfl : b = d := by simpa using hd
      exact ⟨hbm, by rw [hbt, Nat.add_zero]⟩
    | succ j =>
      have h := hts.chained j c d (by simpa using hc) (by simpa using hd)
      rwa [show k + 1 + j = k + (j + 1) by omega] at h
  · intro j c hc
    cases j with
    | zero =>
      obtain rfl : a = c := by simpa using hc
      simpa using And.intro hretry hk
    | succ j =>
      have h := hts.retried j c (by simpa using hc)
      rw [show k + 1 + j = k + (j + 1) by omega] at h
      simpa using h

/-- A request whose tries are counted from zero makes at most one try more
than its retries. -/
lemma Tries.length_le {m : Machine} {t : Nat} {ts : List Attempt}
    (h : Tries s method url body 0 m t ts) : ts.length ≤ s.maxRetries + 1 := by
  obtain ⟨a, rest, rfl, -, -⟩ := h.starts
  cases rest with
  | nil => simp
  | cons b rest =>
    -- the try before the last was followed by another, so its number is below the retries
    obtain ⟨c, hc⟩ : ∃ c, (a :: b :: rest)[rest.length]? = some c :=
      Option.isSome_iff_exists.1 (by simp)
    have h := (h.retried rest.length c hc).1 (by simp)
    simp only [List.length_cons] at h ⊢
    omega

end Tries

/-! ### The client's loop -/

/-- One try of the client's loop. -/
lemma go_succ (method url : String) (body : Option Json) (ok : List Nat) (s : HttpSettings)
    (fuel k backoff : Nat) (m : Machine) (t : Nat) :
    httpRequest.go method url body ok s (fuel + 1) k backoff m t =
      let (m', t', r) := m.sendOnce t method url body
      if Retryable s r ∧ k < s.maxRetries then
        httpRequest.go method url body ok s fuel (k + 1) (min (2 * backoff) s.backoffMaxMs) m'
          (t' + backoff * msNanos)
      else (m', t', verdict method url ok r) := by
  rw [httpRequest.go]
  rcases m.sendOnce t method url body with ⟨m', t', _ | a⟩
  · -- a failed transport is retried exactly while tries are left
    by_cases hk : k < s.maxRetries
    · simp [Retryable, hk, Nat.not_le.2 hk]
    · simp [Retryable, hk, Nat.le_of_not_lt hk, verdict]
  · dsimp only
    by_cases hr : Retryable s (.ok a) ∧ k < s.maxRetries
    · have hb : (s.retryStatuses.contains a.status && decide (k < s.maxRetries)) = true := by
        simpa [Retryable] using hr
      rw [if_pos hr, if_pos hb]
    · have hb : (s.retryStatuses.contains a.status && decide (k < s.maxRetries)) = false := by
        simpa [Retryable] using hr
      have hv : (decide (200 ≤ a.status) && decide (a.status < 300) || ok.contains a.status) = true ↔
          200 ≤ a.status ∧ a.status < 300 ∨ a.status ∈ ok := by
        simp
      rw [if_neg hr, hb]
      simp only [Bool.false_eq_true, if_false, verdict]
      by_cases hacc : 200 ≤ a.status ∧ a.status < 300 ∨ a.status ∈ ok
      · rw [if_pos (hv.2 hacc), if_pos hacc]
      · rw [if_neg (mt hv.1 hacc), if_neg hacc]

lemma go_last {method url : String} {body : Option Json} {ok : List Nat} {s : HttpSettings}
    {fuel k backoff : Nat} {m m' : Machine} {t t' : Nat} {r : Except String HttpAnswer}
    (hsend : m.sendOnce t method url body = (m', t', r))
    (hstop : ¬ (Retryable s r ∧ k < s.maxRetries)) :
    ∃ ts a, Tries s method url body k m t ts ∧ ts.getLast? = some a ∧
      httpRequest.go method url body ok s (fuel + 1) k backoff m t =
        (a.after, a.endedAt, verdict method url ok a.outcome) := by
  refine ⟨[⟨m, t, m', t', r⟩], ⟨m, t, m', t', r⟩, Tries.last (a := ⟨m, t, m', t', r⟩) hsend hstop,
    rfl, ?_⟩
  rw [go_succ, hsend]
  dsimp only
  rw [if_neg hstop]

/-- From try `k` on, the client's loop makes a list of tries and returns the
verdict on the last. -/
lemma go_tries (method url : String) (body : Option Json) (ok : List Nat) (s : HttpSettings) :
    ∀ (fuel k : Nat) (m : Machine) (t : Nat), s.maxRetries ≤ k + fuel →
      ∃ ts a, Tries s method url body k m t ts ∧ ts.getLast? = some a ∧
        httpRequest.go method url body ok s (fuel + 1) k (pauseAfter s k) m t =
          (a.after, a.endedAt, verdict method url ok a.outcome) := by
  intro fuel
  induction fuel with
  | zero =>
    intro k m t hk
    rcases hsend : m.sendOnce t method url body with ⟨m', t', r⟩
    exact go_last hsend fun h => by omega
  | succ fuel ih =>
    intro k m t hk
    rcases hsend : m.sendOnce t method url body with ⟨m', t', r⟩
    by_cases hretry : Retryable s r ∧ k < s.maxRetries
    · rw [go_succ, hsend]
      dsimp only
      rw [if_pos hretry, pauseAfter_succ]
      obtain ⟨ts, a, hts, hlast, hrun⟩ := ih (k + 1) m' (t' + pauseAfter s k * msNanos) (by omega)
      refine ⟨⟨m, t, m', t', r⟩ :: ts, a, Tries.cons (a := ⟨m, t, m', t', r⟩) hsend hretry.1 hretry.2 hts, ?_, hrun⟩
      obtain ⟨b, rest, rfl, -, -⟩ := hts.starts
      simpa [List.getLast?_cons_cons] using hlast
    · exact go_last hsend hretry

/-- A request makes at most one try more than the client's retries, paused as
`pauseAfter` says and each followed by another exactly when it is worth
retrying and tries are left, and returns the verdict on the last. -/
theorem httpRequest_tries_then_judges_last (m : Machine) (now : Nat) (method url : String)
    (body : Option Json) (ok : List Nat) :
    ∃ ts a, Tries m.http method url body 0 m now ts ∧ ts.getLast? = some a ∧
      ts.length ≤ m.http.maxRetries + 1 ∧
      (∀ k, pauseAfter m.http k ≤ max m.http.backoffMs m.http.backoffMaxMs) ∧
      m.httpRequest now method url body ok = (a.after, a.endedAt, verdict method url ok a.outcome) := by
  obtain ⟨ts, a, hts, hlast, hrun⟩ :=
    go_tries method url body ok m.http (m.http.maxRetries + 1) 0 m now (by omega)
  refine ⟨ts, a, hts, hlast, hts.length_le, pauseAfter_le m.http, ?_⟩
  rw [← hrun]
  rfl

end NotebookGuard.Proofs
