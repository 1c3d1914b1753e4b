import Auction.House.Basic

/-!
# The attempts of the compare-and-swap loop

`House.retry` is written once for any surroundings. Here it runs against *scripted* surroundings:
a `Script` answers every load, change, commit and wait by a function of the calls made before,
and each call is written into a log with its answer. Every sequence of answers, adaptive ones
included, is some script's, so what holds of every scripted run holds of the loop whatever the
ledger does.

`Runs left calls r` is the grammar of such logs: a run is a sequence of attempts lost to a version
conflict, each opened by a look at the caller's context and followed by a wait while attempts are
left, and then one attempt that decides: the context has ended, the load fails, the change
refuses or keeps the book, the commit lands or fails otherwise, the wait panics or the context
ends it, or the last attempt is lost too and the attempts ran out. `runs_retry` proves every log
of the loop is one of these, with the loop's answer.

The laws of the loop are then laws of the grammar, each by one induction on it:

* at most `left` calls of each kind: looks at the context, loads, changes, commits and waits
  (`Runs.countP_kind_le`);
* a change is made on the book loaded right before it (`Runs.change_after_load`);
* a commit comes right after the load of a book and a change that wrote, and commits the written
  book over the loaded version at the next one (`Runs.commit_after_write`);
* a call that decides the run (`Call.decision`) is its last call, and the run answers with that
  decision (`Runs.decision_last`): a refusal of the change is returned as it is, a kept book is
  the loaded one, any other commit fault is wrapped, an ended context gives its own error;
* the run ends in the conflict business error exactly when all `left` commits lost to a version
  conflict (`Runs.exhausted_iff`), when nothing else can produce that error.

`retry_attempts_and_exits` gathers them for a run of the loop.
-/

namespace Auction

/-- Whether a fault is at its root a version conflict, the fault the loop retries on. -/
def Fault.isConflict (f : Fault) : Bool :=
  match f.root with
  | .versionConflict => true
  | _ => false

/-- A failure is a conflict exactly when its root is a version conflict. -/
theorem Fault.isConflict_iff {f : Fault} : f.isConflict = true ↔ f.root = .versionConflict := by
  unfold Fault.isConflict
  split <;> simp_all

namespace Retry

open House

variable {ε α : Type}

/-- A call the compare-and-swap loop makes, with the answer it got. -/
inductive Call (ε α : Type) where
  /-- The caller's context was looked at. -/
  | context (answer : Option String)
  /-- The stored book was asked for. -/
  | load (answer : Except Fault Book)
  /-- The change was run on the loaded `book`. -/
  | change (book : Book) (answer : Except ε (Change α))
  /-- A change was committed. -/
  | commit (change : BookChange) (answer : Except Fault Unit)
  /-- The loop waited with `left` attempts still to come. -/
  | pause (left : Nat) (answer : Wait)

namespace Call

/-- The five kinds of call. -/
inductive Kind where
  | context | load | change | commit | pause
  deriving DecidableEq

/-- The kind of a call. -/
@[simp] def kind : Call ε α → Kind
  | context _ => .context
  | load _ => .load
  | change .. => .change
  | commit .. => .commit
  | pause .. => .pause

/-- A commit that lost to a version conflict. -/
def isLostCommit : Call ε α → Bool
  | commit _ (.error f) => f.isConflict
  | _ => false

/-- What a call decides for the whole run, when it does: an ended context, a failed load, a
refusal or a kept book, a commit that failed other than by a version conflict, and a wait that
panicked or that the context ended. -/
def decision (auctionId : String) (lift : Fault → ε) : Call ε α → Option (Except ε (Book × α))
  | context (some text) => some (.error (lift (.cancelled text)))
  | load (.error f) => some (.error (lift (.wrap ("load auction book " ++ auctionId) f)))
  | change _ (.error e) => some (.error e)
  | change b (.ok (.keep out)) => some (.ok (b, out))
  | commit _ (.error f) =>
    if f.isConflict then none
    else some (.error (lift (.wrap ("commit auction book " ++ auctionId) f)))
  | pause _ (.panicked text) => some (.error (lift (.other text)))
  | pause _ (.cancelled text) => some (.error (lift (.cancelled text)))
  | _ => none

end Call

/-- Surroundings and a change that answer each call by a function of the log of the calls made
before it. -/
structure Script (ε α : Type) where
  load : List (Call ε α) → String → Except Fault Book
  change : List (Call ε α) → α → Book → Except ε (Change α)
  commit : List (Call ε α) → BookChange → Except Fault Unit
  pause : List (Call ε α) → Nat → Wait
  cancelled : List (Call ε α) → Option String

/-- Computations against a script, keeping the log. -/
abbrev Scripted (ε α : Type) := StateM (List (Call ε α))

/-- Answers a call by `answer` on the log so far, and logs it. -/
def record {β : Type} (answer : List (Call ε α) → β) (entry : β → Call ε α) : Scripted ε α β :=
  fun log => (answer log, log ++ [entry (answer log)])

namespace Script

variable (sc : Script ε α)

/-- The surroundings a script plays. -/
def surroundings : Surroundings (Scripted ε α) where
  load auctionId := record (sc.load · auctionId) .load
  commit c := record (sc.commit · c) (.commit c)
  pause left := record (sc.pause · left) (.pause left)
  cancelled := record sc.cancelled .context

/-- A scripted load answers from the script and records the load. -/
@[simp] theorem surroundings_load (auctionId : String) :
    sc.surroundings.load auctionId = record (sc.load · auctionId) .load := rfl

/-- A scripted commit answers from the script and records the commit of its change. -/
@[simp] theorem surroundings_commit (c : BookChange) :
    sc.surroundings.commit c = record (sc.commit · c) (.commit c) := rfl

/-- A scripted wait answers from the script and records the wait with the attempts left. -/
@[simp] theorem surroundings_pause (left : Nat) :
    sc.surroundings.pause left = record (sc.pause · left) (.pause left) := rfl

/-- A scripted look at the context answers from the script and records it. -/
@[simp] theorem surroundings_cancelled :
    sc.surroundings.cancelled = record sc.cancelled .context := rfl

/-- The change a script plays. -/
def mutate (last : α) (b : Book) : Scripted ε α (Except ε (Change α)) :=
  record (sc.change · last b) (.change b)

/-- The loop against the script with `left` attempts, from an empty log: its answer and its log. -/
def run (auctionId : String) (lift : Fault → ε) (left : Nat) (init : α) :
    Except ε (Book × α) × List (Call ε α) :=
  (retry sc.surroundings auctionId lift sc.mutate left init).run []

end Script

/-- Running two scripted steps runs the first on the log, then the second on what the first left. -/
theorem run_bind {β γ : Type} (x : Scripted ε α β) (f : β → Scripted ε α γ)
    (log : List (Call ε α)) : (x >>= f).run log = (f (x.run log).1).run (x.run log).2 := rfl

/-- A recorded call answers from the log so far and appends its entry. -/
@[simp] theorem run_record {β : Type} (answer : List (Call ε α) → β) (entry : β → Call ε α)
    (log : List (Call ε α)) :
    (record answer entry).run log = (answer log, log ++ [entry (answer log)]) := rfl

/-- A value returned at once leaves the log as it is. -/
@[simp] theorem run_pure {β : Type} (b : β) (log : List (Call ε α)) :
    (pure b : Scripted ε α β).run log = (b, log) := rfl

/-- The first part of a pair returned at once. -/
@[simp] theorem pure_fst {β γ : Type} (p : β × γ) : (pure p : Id (β × γ)).1 = p.1 := rfl

/-- The second part of a pair returned at once. -/
@[simp] theorem pure_snd {β γ : Type} (p : β × γ) : (pure p : Id (β × γ)).2 = p.2 := rfl

/-- The calls of an attempt up to its commit: a look at a context that has not ended, the load of
`current` and a change that wrote `working`. -/
def wrote (current working : Book) (out : α) : List (Call ε α) :=
  [.context none, .load (.ok current), .change current (.ok (.write working out))]

/-- The logs of a run of the loop with `left` attempts still to make, and its answers. -/
inductive Runs (auctionId : String) (lift : Fault → ε) :
    Nat → List (Call ε α) → Except ε (Book × α) → Prop
  /-- No attempt is left: the attempts ran out. -/
  | exhausted : Runs auctionId lift 0 [] (.error (lift House.exhausted))
  /-- The caller's context ended before the attempt. -/
  | cancelled {n : Nat} (text : String) :
      Runs auctionId lift (n + 1) [.context (some text)] (.error (lift (.cancelled text)))
  | unloaded {n : Nat} (f : Fault) :
      Runs auctionId lift (n + 1) [.context none, .load (.error f)]
        (.error (lift (.wrap ("load auction book " ++ auctionId) f)))
  | refused {n : Nat} (current : Book) (e : ε) :
      Runs auctionId lift (n + 1)
        [.context none, .load (.ok current), .change current (.error e)] (.error e)
  | kept {n : Nat} (current : Book) (out : α) :
      Runs auctionId lift (n + 1)
        [.context none, .load (.ok current), .change current (.ok (.keep out))]
        (.ok (current, out))
  | landed {n : Nat} (current working : Book) (out : α) :
      Runs auctionId lift (n + 1)
        (wrote current working out ++ [.commit (stamp current working) (.ok ())])
        (.ok ((stamp current working).book, out))
  | broken {n : Nat} (current working : Book) (out : α) (f : Fault) :
      f.root ≠ .versionConflict →
      Runs auctionId lift (n + 1)
        (wrote current working out ++ [.commit (stamp current working) (.error f)])
        (.error (lift (.wrap ("commit auction book " ++ auctionId) f)))
  /-- The last attempt lost too: no wait follows, and the attempts ran out. -/
  | lastLost (current working : Book) (out : α) (f : Fault) :
      f.root = .versionConflict →
      Runs auctionId lift 1
        (wrote current working out ++ [.commit (stamp current working) (.error f)])
        (.error (lift House.exhausted))
  /-- An attempt lost, the wait slept, and the run goes on with the next attempt. -/
  | lost {n : Nat} {calls : List (Call ε α)} {r : Except ε (Book × α)}
      (current working : Book) (out : α) (f : Fault) :
      f.root = .versionConflict → Runs auctionId lift (n + 1) calls r →
      Runs auctionId lift (n + 2)
        (wrote current working out ++
          [.commit (stamp current working) (.error f), .pause (n + 1) .slept] ++ calls) r
  /-- An attempt lost and the wait after it panicked. -/
  | panicked {n : Nat} (current working : Book) (out : α) (f : Fault) (text : String) :
      f.root = .versionConflict →
      Runs auctionId lift (n + 2)
        (wrote current working out ++
          [.commit (stamp current working) (.error f), .pause (n + 1) (.panicked text)])
        (.error (lift (.other text)))
  /-- An attempt lost and the caller's context ended the wait after it. -/
  | interrupted {n : Nat} (current working : Book) (out : α) (f : Fault) (text : String) :
      f.root = .versionConflict →
      Runs auctionId lift (n + 2)
        (wrote current working out ++
          [.commit (stamp current working) (.error f), .pause (n + 1) (.cancelled text)])
        (.error (lift (.cancelled text)))

/-- Every change in `calls` answered as the script's change does, for some log and report. -/
def Script.Answers (sc : Script ε α) (calls : List (Call ε α)) : Prop :=
  ∀ b a, Call.change b a ∈ calls → ∃ log last, sc.change log last b = a

/-- Every run of the loop against a script logs a run of the grammar and answers as it does, and
its changes answer as the script's. The induction is on the attempts left, following the loop's
own recursion. -/
theorem runs_retry (sc : Script ε α) (auctionId : String) (lift : Fault → ε) :
    ∀ (n : Nat) (last : α) (log : List (Call ε α)),
      ∃ calls, ((retry sc.surroundings auctionId lift sc.mutate n last).run log).2 = log ++ calls ∧
        Runs auctionId lift n calls
          ((retry sc.surroundings auctionId lift sc.mutate n last).run log).1 ∧
        sc.Answers calls
  | 0, _, log => ⟨[], by simp [retry], .exhausted, fun _ _ h => by simp at h⟩
  | n + 1, last, log => by
    rw [retry, run_bind]
    simp only [Script.surroundings_cancelled, run_record]
    cases hctx : sc.cancelled log with
    | some text => exact ⟨_, by simp, .cancelled text, by simp [Script.Answers]⟩
    | none =>
    simp only [run_bind, Script.surroundings_load, run_record]
    cases hload : sc.load (log ++ [.context none]) auctionId with
    | error f => exact ⟨_, by simp, .unloaded f, by simp [Script.Answers]⟩
    | ok current =>
      simp only [run_bind, Script.mutate, run_record]
      have hthis : ∀ a, sc.change (log ++ [.context none] ++ [.load (.ok current)]) last current = a →
          ∀ rest, sc.Answers rest →
            sc.Answers (.context none :: .load (.ok current) :: .change current a :: rest) := by
        intro a ha rest hrest b a' hx
        simp only [List.mem_cons, reduceCtorEq, false_or, Call.change.injEq] at hx
        rcases hx with ⟨rfl, rfl⟩ | hx
        · exact ⟨_, _, ha⟩
        · exact hrest b a' hx
      cases hchange : sc.change (log ++ [.context none] ++ [.load (.ok current)]) last current with
      | error e =>
        exact ⟨_, by simp, .refused current e, hthis _ hchange [] (fun _ _ h => by simp at h)⟩
      | ok d =>
        cases d with
        | keep out =>
          exact ⟨_, by simp, .kept current out, hthis _ hchange [] (fun _ _ h => by simp at h)⟩
        | write working out =>
          simp only [run_bind, Script.surroundings_commit, run_record]
          have hwrote : ∀ rest, sc.Answers rest → sc.Answers (wrote current working out ++ rest) :=
            hthis _ hchange
          cases hcommit : sc.commit (log ++ [.context none] ++ [.load (.ok current)] ++
              [.change current (.ok (.write working out))]) (stamp current working) with
          | ok u =>
            exact ⟨_, by simp [wrote], .landed current working out,
              hwrote _ (by simp [Script.Answers])⟩
          | error f =>
            cases hroot : f.root with
            | versionConflict =>
              simp only [hroot]
              by_cases hn : n = 0
              · subst hn
                simp only [if_true, retry, run_pure]
                exact ⟨_, by simp [wrote], .lastLost current working out f hroot,
                  hwrote _ (by simp [Script.Answers])⟩
              · obtain ⟨m, rfl⟩ : ∃ m, n = m + 1 := ⟨n - 1, by omega⟩
                simp only [Nat.add_one_ne_zero, if_false, run_bind, Script.surroundings_pause,
                  run_record]
                cases hpause : sc.pause (log ++ [.context none] ++ [.load (.ok current)] ++
                    [.change current (.ok (.write working out))] ++
                    [.commit (stamp current working) (.error f)]) (m + 1) with
                | slept =>
                  obtain ⟨calls, hlog, hruns, hans⟩ := runs_retry sc auctionId lift (m + 1) out
                    (log ++ [.context none] ++ [.load (.ok current)] ++
                      [.change current (.ok (.write working out))] ++
                      [.commit (stamp current working) (.error f)] ++ [.pause (m + 1) .slept])
                  refine ⟨_, ?_, .lost current working out f hroot hruns, ?_⟩
                  · rw [hlog]
                    simp [wrote]
                  · rw [List.append_assoc]
                    exact hwrote _ (by simpa [Script.Answers] using hans)
                | panicked text =>
                  exact ⟨_, by simp [wrote], .panicked current working out f text hroot,
                    hwrote _ (by simp [Script.Answers])⟩
                | cancelled text =>
                  exact ⟨_, by simp [wrote], .interrupted current working out f text hroot,
                    hwrote _ (by simp [Script.Answers])⟩
            | _ =>
              simp only [hroot]
              exact ⟨_, by simp [wrote], .broken current working out f (by simp [hroot]),
                hwrote _ (by simp [Script.Answers])⟩

/-! ### The laws of a run -/

/-- A change stamped on a loaded book expects the loaded book's version. -/
theorem stamp_expected (current working : Book) :
    (stamp current working).expected = current.version := rfl

/-- A change stamped on a loaded book writes the working book at the next version. -/
theorem stamp_book (current working : Book) :
    (stamp current working).book = { working with version := current.version + 1 } := rfl

/-- The calls of a lost attempt decide nothing: the loaded book, the change that wrote, the
commit that met a version conflict, and a wait that returned. -/
theorem decision_lost {auctionId : String} {lift : Fault → ε} {current working : Book} {out : α}
    {f : Fault} (hroot : f.root = .versionConflict) {x : Call ε α}
    (hx : x ∈ wrote current working out ++
      [.commit (stamp current working) (.error f), .pause n .slept]) :
    x.decision auctionId lift = none := by
  have hc : f.isConflict = true := Fault.isConflict_iff.mpr hroot
  simp only [wrote, List.cons_append, List.nil_append, List.mem_cons, List.not_mem_nil,
    or_false] at hx
  rcases hx with rfl | rfl | rfl | rfl | rfl <;> simp [Call.decision, hc]

namespace Runs

variable {auctionId : String} {lift : Fault → ε} {n : Nat} {calls : List (Call ε α)}
  {r : Except ε (Book × α)}

/-- A run makes each kind of call at most once per attempt: at most `left` loads, changes,
commits and waits. -/
theorem countP_kind_le (h : Runs auctionId lift n calls r) (k : Call.Kind) :
    calls.countP (·.kind == k) ≤ n := by
  induction h with
  | @lost m _ _ current working out f _ _ ih =>
    have hone : (wrote current working out ++
        [.commit (stamp current working) (.error f), .pause (m + 1) .slept] : List (Call ε α)).countP
          (·.kind == k) ≤ 1 := by
      cases k <;> simp [wrote]
    rw [List.countP_append]
    omega
  | _ => cases k <;> simp [wrote]

/-- The one commit among the calls of an attempt is the attempt's own. -/
theorem commit_mem_wrote {current working : Book} {out : α} {c : BookChange}
    {a a' : Except Fault Unit} {rest : List (Call ε α)} (hrest : ∀ x ∈ rest, x.kind ≠ .commit)
    (hc : Call.commit c a ∈
      wrote current working out ++ .commit (stamp current working) a' :: rest) :
    c = stamp current working ∧ a = a' := by
  simp only [wrote, List.cons_append, List.nil_append, List.mem_cons, reduceCtorEq,
    Call.commit.injEq, false_or] at hc
  rcases hc with h | h
  · exact h
  · exact absurd rfl (hrest _ h)

/-- Every commit of a run comes right after the load of a book and a change of it that wrote,
and commits the written book stamped over the loaded version. -/
theorem commit_after_write (h : Runs auctionId lift n calls r) {c : BookChange}
    {a : Except Fault Unit} (hc : Call.commit c a ∈ calls) :
    ∃ current working out, wrote current working out ++ [.commit c a] <:+: calls ∧
      c = stamp current working := by
  induction h with
  | landed current working out =>
    obtain ⟨rfl, rfl⟩ := commit_mem_wrote (by simp) hc
    exact ⟨current, working, out, List.infix_refl _, rfl⟩
  | broken current working out _ _ =>
    obtain ⟨rfl, rfl⟩ := commit_mem_wrote (by simp) hc
    exact ⟨current, working, out, List.infix_refl _, rfl⟩
  | lastLost current working out _ _ =>
    obtain ⟨rfl, rfl⟩ := commit_mem_wrote (by simp) hc
    exact ⟨current, working, out, List.infix_refl _, rfl⟩
  | @panicked m current working out _ text _ =>
    obtain ⟨rfl, rfl⟩ := commit_mem_wrote (by simp) hc
    exact ⟨current, working, out, ⟨[], [.pause (m + 1) (.panicked text)], by simp [wrote]⟩, rfl⟩
  | @interrupted m current working out _ text _ =>
    obtain ⟨rfl, rfl⟩ := commit_mem_wrote (by simp) hc
    exact ⟨current, working, out, ⟨[], [.pause (m + 1) (.cancelled text)], by simp [wrote]⟩, rfl⟩
  | @lost m rest _ current working out f _ _ ih =>
    simp only [wrote, List.cons_append, List.nil_append, List.mem_cons, reduceCtorEq,
      Call.commit.injEq, false_or] at hc
    rcases hc with ⟨rfl, rfl⟩ | hc
    · exact ⟨current, working, out, ⟨[], .pause (m + 1) .slept :: rest, by simp [wrote]⟩, rfl⟩
    · obtain ⟨cur, w, o, hinf, rfl⟩ := ih hc
      exact ⟨cur, w, o, hinf.trans (List.suffix_append _ _).isInfix, rfl⟩
  | exhausted => simp at hc
  | cancelled => simp at hc
  | unloaded => simp at hc
  | refused => simp at hc
  | kept => simp at hc

/-- Every change of a run is made on the book loaded right before it. -/
theorem change_after_load (h : Runs auctionId lift n calls r) {b : Book}
    {a : Except ε (Change α)} (hc : Call.change b a ∈ calls) :
    [.load (.ok b), .change b a] <:+: calls := by
  induction h with
  | @lost m rest _ current working out f _ _ ih =>
    simp only [wrote, List.cons_append, List.nil_append, List.mem_cons, reduceCtorEq,
      Call.change.injEq, false_or] at hc
    rcases hc with ⟨rfl, rfl⟩ | hc
    · exact ⟨[.context none], _, rfl⟩
    · exact (ih hc).trans (List.suffix_append _ _).isInfix
  | exhausted => simp at hc
  | cancelled => simp at hc
  | unloaded => simp at hc
  | _ =>
    simp only [wrote, List.cons_append, List.nil_append, List.mem_cons, reduceCtorEq,
      Call.change.injEq, false_or, List.not_mem_nil, or_false] at hc
    obtain ⟨rfl, rfl⟩ := hc
    exact ⟨[.context none], _, rfl⟩

/-- A call that decides the run is its last call, and the run answers with its decision. -/
theorem decision_last (h : Runs auctionId lift n calls r) {x : Call ε α}
    {d : Except ε (Book × α)} (hx : x ∈ calls) (hd : x.decision auctionId lift = some d) :
    calls.getLast? = some x ∧ r = d := by
  induction h with
  | lost current working out f hroot _ ih =>
    rw [List.mem_append] at hx
    rcases hx with hx | hx
    · rw [decision_lost hroot hx] at hd
      cases hd
    · obtain ⟨hlast, rfl⟩ := ih hx
      exact ⟨by simp [List.getLast?_append, List.getLast?_cons, hlast], rfl⟩
  | exhausted => simp at hx
  | _ =>
    simp only [wrote, List.cons_append, List.nil_append, List.mem_cons, List.not_mem_nil,
      or_false] at hx
    rcases hx with rfl | rfl | rfl | rfl | rfl <;>
      simp_all [Call.decision, Fault.isConflict_iff]

/-- A fault that is not a business error, a wrapped one included, is not the conflict business
error. -/
theorem lift_ne_exhausted {lift : Fault → ε} (hlift : Function.Injective lift) {f : Fault}
    (hf : ∀ e, f ≠ .bid e) : lift f ≠ lift House.exhausted :=
  fun h => hf _ (hlift h)

/-- When the change never refuses with it, the run ends in the conflict business error exactly
when every one of its `left` commits lost to a version conflict. -/
theorem exhausted_iff (h : Runs auctionId lift n calls r) (hlift : Function.Injective lift)
    (hchange : ∀ b, Call.change b (.error (lift House.exhausted)) ∉ calls) :
    r = .error (lift House.exhausted) ↔ calls.countP Call.isLostCommit = n := by
  induction h with
  | exhausted => simp
  | cancelled text =>
    simp [lift_ne_exhausted hlift (f := .cancelled text) (by simp), Call.isLostCommit]
  | unloaded f =>
    simp [lift_ne_exhausted hlift (f := .wrap _ f) (by simp), Call.isLostCommit]
  | refused current e =>
    have he : e ≠ lift House.exhausted := fun he => hchange current (by simp [he])
    simp [he, Call.isLostCommit]
  | kept => simp [Call.isLostCommit]
  | landed => simp [wrote, Call.isLostCommit]
  | broken current working out f hroot =>
    have hf : f.isConflict = false := Bool.eq_false_iff.mpr (mt Fault.isConflict_iff.mp hroot)
    simp [wrote, Call.isLostCommit, hf, lift_ne_exhausted hlift (f := .wrap _ f) (by simp)]
  | lastLost current working out f hroot =>
    simp [wrote, Call.isLostCommit, Fault.isConflict_iff.mpr hroot]
  | lost current working out f hroot _ ih =>
    have hrest : ∀ b, Call.change b (.error (lift House.exhausted)) ∉ _ :=
      fun b hb => hchange b (List.mem_append_right _ hb)
    rw [ih hrest, List.countP_append]
    simp [wrote, Call.isLostCommit, Fault.isConflict_iff.mpr hroot]
    omega
  | panicked current working out f text hroot =>
    simp [wrote, Call.isLostCommit, Fault.isConflict_iff.mpr hroot,
      lift_ne_exhausted hlift (f := .other text) (by simp)]
  | interrupted current working out f text hroot =>
    simp [wrote, Call.isLostCommit, Fault.isConflict_iff.mpr hroot,
      lift_ne_exhausted hlift (f := .cancelled text) (by simp)]

end Runs

/-- The compare-and-swap loop with `left` attempts, against any ledger, any waits, any context and
any change, each answering as it likes from what came before:

* it makes at most `left` looks at the context, loads, changes, commits and waits;
* it changes only the book it loaded right before;
* it commits only right after a change that wrote, at the loaded version, the written book
  stamped with the next version;
* a context that has ended, a failed load, a refused or kept change, a commit that failed other
  than by a version conflict, or a wait that panicked or that the context ended ends it at once:
  no call follows, and it answers with the context's error, the refusal as it is, the loaded book
  with the change's report, or the fault wrapped with its step;
* when the change never refuses with the conflict business error itself, the loop answers with
  it exactly when all `left` commits lost to a version conflict. -/
theorem retry_attempts_and_exits (sc : Script ε α) (auctionId : String) (lift : Fault → ε)
    (left : Nat) (init : α) :
    let run := sc.run auctionId lift left init
    (∀ k, run.2.countP (·.kind == k) ≤ left) ∧
    (∀ b a, Call.change b a ∈ run.2 → [.load (.ok b), .change b a] <:+: run.2) ∧
    (∀ c a, Call.commit c a ∈ run.2 → ∃ current working out,
      wrote current working out ++ [.commit c a] <:+: run.2 ∧
        c.expected = current.version ∧ c.book = { working with version := current.version + 1 }) ∧
    (∀ x d, x ∈ run.2 → x.decision auctionId lift = some d →
      run.2.getLast? = some x ∧ run.1 = d) ∧
    (Function.Injective lift → (∀ log last b, sc.change log last b ≠ .error (lift exhausted)) →
      (run.1 = .error (lift exhausted) ↔ run.2.countP Call.isLostCommit = left)) := by
  obtain ⟨calls, hlog, hruns, hans⟩ := runs_retry sc auctionId lift left init []
  rw [List.nil_append] at hlog
  dsimp only [Script.run]
  rw [hlog]
  refine ⟨hruns.countP_kind_le, fun _ _ hc => hruns.change_after_load hc, ?_,
    fun _ _ hx hd => hruns.decision_last hx hd, ?_⟩
  · intro c a hc
    obtain ⟨current, working, out, hinf, rfl⟩ := hruns.commit_after_write hc
    exact ⟨current, working, out, hinf, stamp_expected current working, stamp_book current working⟩
  · intro hlift hchange
    refine hruns.exhausted_iff hlift fun b hb => ?_
    obtain ⟨log, last, hb⟩ := hans b _ hb
    exact hchange log last b hb

/-- A ledger that holds an empty book and loses every commit to a version conflict, under a
change that always writes. -/
def losesEveryCommit : Script Fault Unit where
  load _ auctionId := .ok (Book.empty auctionId)
  change _ _ b := .ok (.write b ())
  commit _ _ := .error .versionConflict
  pause _ _ := .slept
  cancelled _ := none

/-- Against a ledger that loses every commit, three attempts end in the conflict business error
after three lost commits. -/
theorem retry_attempts_and_exits_losing :
    (losesEveryCommit.run "a-1" id 3 ()).2.countP Call.isLostCommit = 3 ∧
      (losesEveryCommit.run "a-1" id 3 ()).1 = .error exhausted :=
  have hlost : (losesEveryCommit.run "a-1" id 3 ()).2.countP Call.isLostCommit = 3 := by decide
  ⟨hlost, ((retry_attempts_and_exits losesEveryCommit "a-1" id 3 ()).2.2.2.2 Function.injective_id
    (fun _ _ _ h => by cases h)).mpr hlost⟩

end Retry

end Auction
