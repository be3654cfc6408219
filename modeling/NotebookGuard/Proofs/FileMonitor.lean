import NotebookGuard.Monitor
import NotebookGuard.Proofs.Registry
import Mathlib

/-!
# The file monitor reports each content change once

A file's successive states are distinguishable when every content change
moves its length, time or digest. Then one look sends the path exactly when
the content or existence changed (`look_forPath`), and along the thread's
polls a path is sent once per change (`thread_marks_changes`); a dropped
receiver only cuts the stream short (`thread_hangs_up`).
-/

namespace NotebookGuard.Proofs

open FileMonitor

/-! ### Tokens -/

lemma CancelToken.isCancelled_child (t : CancelToken) (flag : Nat) (raised : List Nat) :
    (t.child flag).isCancelled raised = (raised.contains flag || t.isCancelled raised) := by
  simp only [CancelToken.isCancelled, CancelToken.child, List.any_append, List.any_cons,
    List.any_nil, Bool.or_false]
  cases raised.contains flag <;> cases raised.contains t.own <;> simp [Bool.or_comm]

lemma CancelToken.isCancelled_cancel (t : CancelToken) (raised : List Nat) :
    t.isCancelled (t.cancel raised) = true := by
  simp [CancelToken.isCancelled, CancelToken.cancel]

lemma CancelToken.isCancelled_cons_of_foreign (t : CancelToken) (raised : List Nat) {flag : Nat}
    (hown : flag ≠ t.own) (hanc : flag ∉ t.ancestors) :
    t.isCancelled (flag :: raised) = t.isCancelled raised := by
  have hsame : ∀ a ∈ t.ancestors, (flag :: raised).contains a = raised.contains a := by
    intro a ha
    have hne : a ≠ flag := fun h => hanc (h ▸ ha)
    simp [hne]
  have hancestors : t.ancestors.any (flag :: raised).contains = t.ancestors.any raised.contains := by
    rw [Bool.eq_iff_iff]
    simp only [List.any_eq_true]
    exact exists_congr fun a => and_congr_right fun ha => by rw [hsame a ha]
  simp only [CancelToken.isCancelled, hancestors]
  simp [Ne.symm hown]

/-! ### One look -/

/-- The content at a path: none when nothing is there or it cannot be read. -/
def contentOf (s : Option FileStat) : Option ByteArray := s.bind (·.bytes)

/-- Two successive states of a file that the monitor tells apart by their
content: a present file can be read, a content change moves the length or the
modification time, and two different contents have different digests. -/
structure Distinguishable (s s' : Option FileStat) : Prop where
  readable : ∀ f, s = some f ∨ s' = some f → f.bytes.isSome
  stat_moves : contentOf s ≠ contentOf s' → FileIdentity.stat s ≠ FileIdentity.stat s'
  digest_moves : ∀ b b', contentOf s = some b → contentOf s' = some b' → b ≠ b' →
    sha256Hex b ≠ sha256Hex b'

/-- From the identity of the earlier state, one look remembers the identity
of the later state and sends the path exactly when the content moved. -/
theorem look_forPath {s s' : Option FileStat} (h : Distinguishable s s') :
    look (FileIdentity.forPath s) s' =
      (FileIdentity.forPath s', decide (contentOf s ≠ contentOf s')) := by
  cases s with
  | none =>
    cases s' with
    | none => rfl
    | some f' =>
      obtain ⟨b', hb'⟩ := Option.isSome_iff_exists.1 (h.readable f' (.inr rfl))
      simp [look, FileIdentity.forPath, FileIdentity.stat, contentOf, hb']
  | some f =>
    obtain ⟨b, hb⟩ := Option.isSome_iff_exists.1 (h.readable f (.inl rfl))
    cases s' with
    | none => simp [look, FileIdentity.forPath, FileIdentity.stat, contentOf, hb]
    | some f' =>
      obtain ⟨b', hb'⟩ := Option.isSome_iff_exists.1 (h.readable f' (.inr rfl))
      by_cases hstat : f.len = f'.len ∧ f.modifiedNanos = f'.modifiedNanos
      · -- the cheap check passes, so the content cannot have moved
        have hbb : b = b' := by
          by_contra hne
          exact h.stat_moves (by simp [contentOf, hb, hb', hne])
            (by simp [FileIdentity.stat, hstat.1, hstat.2])
        subst hbb
        simp [look, FileIdentity.forPath, FileIdentity.stat, contentOf, hb, hb', hstat.1,
          hstat.2]
      · by_cases hbb : b = b'
        · subst hbb
          simp [look, FileIdentity.forPath, FileIdentity.stat, contentOf, hb, hb', hstat]
        · have hsha := h.digest_moves b b' (by simp [contentOf, hb]) (by simp [contentOf, hb'])
            hbb
          simp [look, FileIdentity.forPath, FileIdentity.stat, contentOf, hb, hb', hstat, hsha, hbb]

/-- A save that leaves the content as it was is told apart from the state
before it: the digest check answers for it. -/
lemma Distinguishable.of_contentOf_eq {s s' : Option FileStat}
    (hread : ∀ f, s = some f ∨ s' = some f → f.bytes.isSome) (h : contentOf s = contentOf s') :
    Distinguishable s s' where
  readable := hread
  stat_moves hne := absurd h hne
  digest_moves _ _ hb hb' hne := absurd (Option.some_inj.1 (hb ▸ hb' ▸ h)) hne

/-- A file that goes away is told apart from the state before it. -/
lemma Distinguishable.to_none {s : Option FileStat} (hread : ∀ f, s = some f → f.bytes.isSome) :
    Distinguishable s none where
  readable f hf := hf.elim (hread f) (fun h => by cases h)
  stat_moves hne := by
    cases s with
    | none => exact absurd rfl hne
    | some f => simp [FileIdentity.stat]
  digest_moves _ _ _ hb' := by simp [contentOf] at hb'

/-! ### One poll -/

lemma poll_none (files : String → Option FileStat) (l : List (String × Option FileIdentity)) :
    poll files none l =
      { baseline := l.map fun e => (e.1, (look e.2 (files e.1)).1),
        sent := (l.filter fun e => (look e.2 (files e.1)).2).map Prod.fst,
        room := none, hungUp := false } := by
  induction l with
  | nil => rfl
  | cons e rest ih =>
    obtain ⟨q, k⟩ := e
    by_cases hs : (look k (files q)).2 <;> simp [poll, hs, ih]

lemma lookup_map_look (files : String → Option FileStat) (l : List (String × Option FileIdentity))
    (p : String) :
    (l.map fun e => (e.1, (look e.2 (files e.1)).1)).lookup p =
      (l.lookup p).map fun k => (look k (files p)).1 := by
  induction l with
  | nil => rfl
  | cons e rest ih =>
    obtain ⟨q, k⟩ := e
    by_cases hpq : p = q
    · subst hpq
      simp
    · simp [lookup_cons_pair, hpq, ih]

/-- With its keys distinct, a poll sends a path once when its look says so,
and not at all otherwise. -/
lemma count_sent (files : String → Option FileStat) {l : List (String × Option FileIdentity)}
    {p : String} {k : Option FileIdentity} (hkeys : (l.map Prod.fst).Nodup)
    (hp : l.lookup p = some k) :
    ((l.filter fun e => (look e.2 (files e.1)).2).map Prod.fst).count p =
      if (look k (files p)).2 then 1 else 0 := by
  induction l with
  | nil => simp at hp
  | cons e rest ih =>
    obtain ⟨q, k'⟩ := e
    simp only [List.map_cons, List.nodup_cons] at hkeys
    by_cases hpq : p = q
    · subst hpq
      have hk : k' = k := by simpa [lookup_cons_pair] using hp
      subst hk
      have hrest : ((rest.filter fun e => (look e.2 (files e.1)).2).map Prod.fst).count p = 0 :=
        List.count_eq_zero_of_not_mem fun hmem =>
          hkeys.1 (((List.filter_sublist).map Prod.fst).subset hmem)
      by_cases hs : (look k' (files p)).2 <;> simp [hs, hrest]
    · have hp' : rest.lookup p = some k := by simpa [lookup_cons_pair, hpq] using hp
      by_cases hs : (look k' (files q)).2 <;>
        simp [hs, Ne.symm hpq, ih hkeys.2 hp']

/-! ### A receiver that stays -/

/-- The rounds the thread polls: those before the first whose sleep finds its
token cancelled. -/
def polled (stop : CancelToken) (rounds : List Round) : List Round :=
  rounds.takeWhile fun r => !stop.isCancelled r.raised

/-- The states of a path at the start and at each round. -/
def statesAt (p : String) (start : Option FileStat) (rounds : List Round) :
    List (Option FileStat) :=
  start :: rounds.map fun r => r.files p

/-- For each two successive states, one when the content or the existence
moved between them and zero when it did not. -/
def changeMarks : List (Option FileStat) → List Nat
  | s :: s' :: rest => (if contentOf s = contentOf s' then 0 else 1) :: changeMarks (s' :: rest)
  | _ => []

lemma polled_cons_of_cancelled {stop : CancelToken} {r : Round} (rs : List Round)
    (hc : stop.isCancelled r.raised = true) : polled stop (r :: rs) = [] := by
  simp [polled, hc]

lemma polled_cons_of_live {stop : CancelToken} {r : Round} (rs : List Round)
    (hc : stop.isCancelled r.raised = false) : polled stop (r :: rs) = r :: polled stop rs := by
  simp [polled, hc]

lemma thread_none_cons (stop : CancelToken) (l : List (String × Option FileIdentity))
    (r : Round) (rs : List Round) (hc : stop.isCancelled r.raised = false) :
    thread stop none l (r :: rs) =
      ((poll r.files none l).sent :: (thread stop none (poll r.files none l).baseline rs).1,
        (thread stop none (poll r.files none l).baseline rs).2) := by
  simp [thread, hc, poll_none]

/-- Along the polls of a thread whose receiver stays, a path is sent once at
each poll where its content or existence moved, and never at the others. -/
theorem thread_marks_changes (stop : CancelToken) (p : String) :
    ∀ (rounds : List Round) (l : List (String × Option FileIdentity)) (prev : Option FileStat),
      (l.map Prod.fst).Nodup → l.lookup p = some (FileIdentity.forPath prev) →
      (statesAt p prev (polled stop rounds)).IsChain Distinguishable →
      (thread stop none l rounds).1.map (·.count p) =
        changeMarks (statesAt p prev (polled stop rounds)) := by
  intro rounds
  induction rounds with
  | nil => intro l prev _ _ _; rfl
  | cons r rs ih =>
    intro l prev hkeys hp hseen
    cases hc : stop.isCancelled r.raised
    case true => simp [thread, hc, polled_cons_of_cancelled rs hc, statesAt, changeMarks]
    case false =>
      rw [polled_cons_of_live rs hc] at hseen ⊢
      simp only [statesAt, List.map_cons, List.isChain_cons_cons] at hseen
      have hlook := look_forPath hseen.1
      -- what the poll remembers of the path is the identity of its new state
      have hkeys' : ((poll r.files none l).baseline.map Prod.fst).Nodup := by
        simpa [poll_none, Function.comp_def] using hkeys
      have hp' : (poll r.files none l).baseline.lookup p =
          some (FileIdentity.forPath (r.files p)) := by
        simp [poll_none, lookup_map_look, hp, hlook]
      rw [thread_none_cons stop l r rs hc, List.map_cons,
        ih _ (r.files p) hkeys' hp' hseen.2]
      simp only [poll_none, count_sent r.files hkeys hp, hlook, statesAt, List.map_cons,
        changeMarks]
      by_cases hsame : contentOf prev = contentOf (r.files p) <;> simp [hsame]

/-- A thread whose receiver stays stops at the first sleep that finds its
token cancelled, and runs on when none does. -/
theorem thread_none_ending (stop : CancelToken) :
    ∀ (rounds : List Round) (l : List (String × Option FileIdentity)),
      (thread stop none l rounds).2 =
        if (polled stop rounds).length < rounds.length then .stopped else .running := by
  intro rounds
  induction rounds with
  | nil => intro l; rfl
  | cons r rs ih =>
    intro l
    cases hc : stop.isCancelled r.raised
    case true => simp [thread, hc, polled_cons_of_cancelled rs hc]
    case false => simp [thread_none_cons stop l r rs hc, polled_cons_of_live rs hc, ih]

/-! ### A receiver that is dropped -/

/-- A poll whose receiver takes `d` more paths sends the first `d` of the
paths it would send to a receiver that stays, and hangs up when there are more;
otherwise it leaves what the other leaves. -/
lemma poll_some (files : String → Option FileStat) :
    ∀ (l : List (String × Option FileIdentity)) (d : Nat),
      (poll files (some d) l).sent = (poll files none l).sent.take d ∧
      (poll files (some d) l).hungUp = decide (d < (poll files none l).sent.length) ∧
      ((poll files none l).sent.length ≤ d →
        (poll files (some d) l).baseline = (poll files none l).baseline ∧
        (poll files (some d) l).room = some (d - (poll files none l).sent.length)) := by
  intro l
  induction l with
  | nil => intro d; simp [poll]
  | cons e rest ih =>
    intro d
    obtain ⟨q, k⟩ := e
    by_cases hs : (look k (files q)).2
    · cases d with
      | zero => simp [poll, hs]
      | succ d =>
        obtain ⟨hsent, hhung, hrest⟩ := ih d
        refine ⟨by simp [poll, hs, hsent], by simp [poll, hs, hhung], fun hle => ?_⟩
        obtain ⟨hbase, hroom⟩ := hrest (by simpa [poll, hs] using hle)
        simp [poll, hs, hbase, hroom]
    · obtain ⟨hsent, hhung, hrest⟩ := ih d
      refine ⟨by simp [poll, hs, hsent], by simp [poll, hs, hhung], fun hle => ?_⟩
      obtain ⟨hbase, hroom⟩ := hrest (by simpa [poll, hs] using hle)
      simp [poll, hs, hbase, hroom]

/-- A receiver dropped after taking `d` paths cuts the stream of sends after
the first `d` of those a staying receiver gets, and the thread ends, hung up,
at the next send. -/
theorem thread_hangs_up (stop : CancelToken) :
    ∀ (rounds : List Round) (l : List (String × Option FileIdentity)) (d : Nat),
      (thread stop (some d) l rounds).1.flatten = (thread stop none l rounds).1.flatten.take d ∧
      (thread stop (some d) l rounds).2 =
        if d < (thread stop none l rounds).1.flatten.length then .hungUp
        else (thread stop none l rounds).2 := by
  intro rounds
  induction rounds with
  | nil => intro l d; simp [thread]
  | cons r rs ih =>
    intro l d
    cases hc : stop.isCancelled r.raised
    case true => simp [thread, hc]
    case false =>
      rw [thread_none_cons stop l r rs hc]
      obtain ⟨hsent, hhung, hrest⟩ := poll_some r.files l d
      set sent := (poll r.files none l).sent
      by_cases hcut : d < sent.length
      · have hthread : thread stop (some d) l (r :: rs) = ([sent.take d], .hungUp) := by
          simp [thread, hc, hhung, hcut, hsent, sent]
        rw [hthread]
        simp [List.take_append_of_le_length hcut.le, hcut, Nat.lt_add_right]
      · obtain ⟨hbase, hroom⟩ := hrest (Nat.le_of_not_lt hcut)
        have hthread : thread stop (some d) l (r :: rs) =
            (sent :: (thread stop (some (d - sent.length)) (poll r.files none l).baseline rs).1,
              (thread stop (some (d - sent.length)) (poll r.files none l).baseline rs).2) := by
          simp [thread, hc, hhung, hcut, hsent, hbase, hroom, sent,
            List.take_of_length_le (Nat.le_of_not_lt hcut)]
        obtain ⟨hflat, hend⟩ := ih (poll r.files none l).baseline (d - sent.length)
        rw [hthread]
        refine ⟨?_, ?_⟩
        · simp [hflat, List.take_append, List.take_of_length_le (Nat.le_of_not_lt hcut)]
        · set later := (thread stop none (poll r.files none l).baseline rs).1.flatten
          have hiff : d - sent.length < later.length ↔ d < sent.length + later.length := by omega
          simp only [hend, List.flatten_cons, List.length_append]
          exact if_congr hiff rfl rfl

/-! ### Starting -/

lemma lookup_foldl_putSorted (files : String → Option FileStat) (p : String) :
    ∀ (paths : List String) (acc : List (String × Option FileIdentity)),
      (paths.foldl (fun acc q => putSorted q (FileIdentity.forPath (files q)) acc) acc).lookup p =
        if p ∈ paths then some (FileIdentity.forPath (files p)) else acc.lookup p := by
  intro paths
  induction paths with
  | nil => intro acc; simp
  | cons q rest ih =>
    intro acc
    rw [List.foldl_cons, ih, lookup_putSorted]
    by_cases hpq : p = q
    · subst hpq; simp
    · simp [hpq]

lemma mem_keys_putSorted {α : Type} (k : String) (v : α) (l : List (String × α)) (j : String) :
    j ∈ (putSorted k v l).map Prod.fst ↔ j = k ∨ j ∈ l.map Prod.fst := by
  induction l with
  | nil => simp [putSorted]
  | cons e rest ih =>
    obtain ⟨k', v'⟩ := e
    unfold putSorted
    by_cases hlt : k < k'
    · simp [hlt]
    · by_cases heq : k = k'
      · subst heq; simp
      · simp only [hlt, heq, if_false, List.map_cons, List.mem_cons, ih]
        tauto

lemma putSorted_sorted {α : Type} (k : String) (v : α) {l : List (String × α)}
    (hl : (l.map Prod.fst).Pairwise (· < ·)) :
    ((putSorted k v l).map Prod.fst).Pairwise (· < ·) := by
  induction l with
  | nil => simp [putSorted]
  | cons e rest ih =>
    obtain ⟨k', v'⟩ := e
    simp only [List.map_cons, List.pairwise_cons] at hl
    unfold putSorted
    by_cases hlt : k < k'
    · simp only [hlt, if_true, List.map_cons, List.pairwise_cons, List.mem_cons]
      refine ⟨?_, hl.1, hl.2⟩
      rintro j (rfl | hj)
      · exact hlt
      · exact hlt.trans (hl.1 j hj)
    · by_cases heq : k = k'
      · subst heq
        simpa using hl
      · have hgt : k' < k := lt_of_le_of_ne (not_lt.1 hlt) (Ne.symm heq)
        simp only [hlt, heq, if_false, List.map_cons, List.pairwise_cons]
        refine ⟨fun j hj => ?_, ih hl.2⟩
        rcases (mem_keys_putSorted k v rest j).1 hj with rfl | hj
        · exact hgt
        · exact hl.1 j hj

lemma start_keys_nodup (paths : List String) (files : String → Option FileStat)
    (cancel : CancelToken) (flag : Nat) :
    ((start paths files cancel flag).baseline.map Prod.fst).Nodup := by
  have hsorted : ∀ (qs : List String) (acc : List (String × Option FileIdentity)),
      (acc.map Prod.fst).Pairwise (· < ·) →
      ((qs.foldl (fun acc q => putSorted q (FileIdentity.forPath (files q)) acc) acc).map
        Prod.fst).Pairwise (· < ·) := by
    intro qs
    induction qs with
    | nil => intro acc h; exact h
    | cons q rest ih => intro acc h; exact ih _ (putSorted_sorted _ _ h)
  exact (hsorted paths [] List.Pairwise.nil).imp ne_of_lt

lemma start_lookup {paths : List String} (files : String → Option FileStat)
    (cancel : CancelToken) (flag : Nat) {p : String} (hp : p ∈ paths) :
    (start paths files cancel flag).baseline.lookup p = some (FileIdentity.forPath (files p)) := by
  simp [start, lookup_foldl_putSorted, hp]

/-! ### The monitor -/

/-- What a started monitor `m`, under the caller's token `cancel` with `flag`
as its own, does over `rounds` for a watched path `p` found as `first` when it
started. -/
structure MonitorReports (m : FileMonitor) (cancel : CancelToken) (flag : Nat)
    (first : Option FileStat) (rounds : List Round) (p : String) : Prop where
  /-- With a receiver that stays, `p` is sent once at each poll where its
  content or existence moved since the poll before, and never at the others. -/
  marks : (thread m.token none m.baseline rounds).1.map (·.count p) =
    changeMarks (statesAt p first (polled m.token rounds))
  /-- The thread stops at the first sleep that finds its token cancelled. -/
  ending : (thread m.token none m.baseline rounds).2 =
    if (polled m.token rounds).length < rounds.length then .stopped else .running
  /-- A receiver dropped after `d` paths gets the first `d` of them, and the
  thread ends at the next send. -/
  hangs_up : ∀ d, (thread m.token (some d) m.baseline rounds).1.flatten =
      (thread m.token none m.baseline rounds).1.flatten.take d ∧
    (thread m.token (some d) m.baseline rounds).2 =
      if d < (thread m.token none m.baseline rounds).1.flatten.length then .hungUp
      else (thread m.token none m.baseline rounds).2
  /-- The monitor's token is cancelled by its own flag or by the caller's. -/
  cancelled : ∀ raised, m.token.isCancelled raised = (raised.contains flag || cancel.isCancelled raised)
  /-- Stopping the monitor cancels its token and leaves the caller's as it was. -/
  stopped : ∀ raised, m.token.isCancelled (m.stop raised) = true ∧
    cancel.isCancelled (m.stop raised) = cancel.isCancelled raised

/-- A monitor started on `paths` reports a watched path once at each poll where
its distinguishable states moved, and behaves as `MonitorReports` says. -/
theorem fileMonitor_reports_each_change_once (paths : List String)
    (files : String → Option FileStat) (cancel : CancelToken) (flag : Nat)
    (hfresh : flag ≠ cancel.own ∧ flag ∉ cancel.ancestors) (rounds : List Round)
    (p : String) (hp : p ∈ paths)
    (hseen : (statesAt p (files p) (polled (cancel.child flag) rounds)).IsChain Distinguishable) :
    MonitorReports (start paths files cancel flag) cancel flag (files p) rounds p where
  marks := thread_marks_changes _ p rounds _ (files p) (start_keys_nodup paths files cancel flag)
    (start_lookup files cancel flag hp) hseen
  ending := thread_none_ending _ rounds _
  hangs_up d := thread_hangs_up _ rounds _ d
  cancelled := CancelToken.isCancelled_child cancel flag
  stopped raised := ⟨CancelToken.isCancelled_cancel _ raised,
    CancelToken.isCancelled_cons_of_foreign cancel raised hfresh.1 hfresh.2⟩

/-- A notebook as first saved. -/
def savedNotebook : FileStat :=
  { len := 6, modifiedNanos := 1, bytes := some "a = 1\n".toUTF8 }

/-- The notebook saved again unchanged, then deleted. -/
def touchedThenDeleted : List Round :=
  [{ raised := [], files := fun _ => some { savedNotebook with modifiedNanos := 2 } },
   { raised := [], files := fun _ => none }]

theorem fileMonitor_touched_then_deleted :
    (1 ≠ 0 ∧ 1 ∉ ([] : List Nat)) ∧ "demo.py" ∈ ["demo.py"] ∧
      (statesAt "demo.py" (some savedNotebook)
        (polled (CancelToken.child { own := 0 } 1) touchedThenDeleted)).IsChain Distinguishable ∧
      MonitorReports (start ["demo.py"] (fun _ => some savedNotebook) { own := 0 } 1)
        { own := 0 } 1 (some savedNotebook) touchedThenDeleted "demo.py" := by
  have hchain : (statesAt "demo.py" (some savedNotebook)
      (polled (CancelToken.child { own := 0 } 1) touchedThenDeleted)).IsChain Distinguishable := by
    have hread : savedNotebook.bytes.isSome := rfl
    simp [statesAt, polled, touchedThenDeleted, CancelToken.isCancelled, CancelToken.child]
    refine ⟨Distinguishable.of_contentOf_eq ?_ rfl, Distinguishable.to_none ?_⟩
    · rintro f (h | h) <;> obtain rfl := Option.some_inj.1 h <;> exact hread
    · rintro f ⟨⟩
      exact hread
  exact ⟨by decide, by simp, hchain,
    fileMonitor_reports_each_change_once ["demo.py"] _ { own := 0 } 1 (by decide) _ _ (by simp)
      hchain⟩

end NotebookGuard.Proofs
