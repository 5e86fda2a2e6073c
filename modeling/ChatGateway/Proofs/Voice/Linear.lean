import Mathlib
import ChatGateway.Proofs.Voice.Order
import ChatGateway.Proofs.Voice.Turns

/-!
# What interleaving calls do to the recorder

Next to the order of the calls goes an account of the recorder: what it has been asked for is,
job by job, what the calls ask for when they are carried out in that order, except that a start
that has succeeded may not count yet.  With both, every path of calls has the answers of calls
one at a time, and the recorder is started and stopped by turns.
-/

set_option autoImplicit false

namespace ChatGateway.Voice

/-- Whether an event is one of the recorder's. -/
def Event.ofRecorder : Event → Bool
  | .asked _ _ => true
  | .recorded _ _ _ => true
  | _ => false

/-- The answers in a history are those of calls one at a time, in an order in which no call
comes before one that had returned when it came in. -/
structure Linearizes (history : List Event) (order : List (Call × Answer)) : Prop where
  begun : ∀ e ∈ order, .begun e.1 ∈ history
  nodup : (order.map fun e => e.1.id).Nodup
  answered : ∀ id answer, .answered id answer ∈ history →
    ∃ e ∈ order, e.1.id = id ∧ e.2 = answer
  inOrder : order.Pairwise fun a b => ¬ Precedes history b.1.id a.1.id

namespace Floor

/-- Nothing is under way: the recorder has done just the jobs of the calls in order. -/
structure Rest (jobs : List Recording) (on : Bool) (done : List Recording)
    (current : Option (Nat × Job)) (active : Bool) : Prop where
  done : done = jobs
  current : current = none
  active : active = on

/-- How what the recorder has done and does agrees with how far the call is that has the turn,
when the calls in order come to `jobs` and leave recording `on`. -/
def Agrees (jobs : List Recording) (on : Bool) (done : List Recording)
    (current : Option (Nat × Job)) (active : Bool) : Option (Call × Stage) → Prop
  | none => Rest jobs on done current active
  | some (_, .done _) => Rest jobs on done current active
  | some (call, .choosing) => Rest jobs on done current active ∧ call.request = .toggle
  | some (call, .chosen job) =>
    Rest jobs on done current active ∧
      (call.request.job? on = some job ∨
        call.request.job? on = none ∧ (on = true ↔ job = .start))
  | some (call, .cleared) =>
    Rest jobs on done current on ∧ active = false ∧ call.request.job? on = some .stop
  | some (call, .asked job) =>
    done = jobs ∧ current = some (call.id, job) ∧ active = false ∧
      call.request.job? on = some job
  | some (call, .started) =>
    Rest (jobs ++ [⟨call.id, .start, .ok ()⟩]) false done current active ∧
      call.request.job? on = some .start

/-- All that is known after a path. -/
structure Account (history : List Event) (order : List (Call × Answer))
    (recordings : List Recording) (current : Option (Nat × Job)) (f : Floor) : Prop where
  ledger : f.Ledger history order
  recorder : history.filter Event.ofRecorder =
    recordings.flatMap Recording.events ++ current.toList.map fun c => .asked c.1 c.2
  agrees : ∃ jobs on, OneByOne order jobs on ∧
    Agrees jobs on recordings current f.active f.turn

/-- A call that has just got the turn finds nothing under way. -/
theorem Rest.entry {jobs done : List Recording} {on active : Bool}
    {current : Option (Nat × Job)} (rest : Rest jobs on done current active) (call : Call) :
    Agrees jobs on done current active (some (call, call.request.entry)) := by
  obtain ⟨id, request⟩ := call
  cases request <;> cases on <;> simp_all [Request.entry, Agrees, Request.job?]

/-- The recorder has done just the jobs of the calls in order, or those and the start that does
not count yet. -/
theorem Agrees.settled_or_started {jobs done : List Recording} {on active : Bool}
    {current : Option (Nat × Job)} {turn : Option (Call × Stage)}
    (h : Agrees jobs on done current active turn) :
    (done = jobs ∧ (active = true → on = true) ∧ ∀ c ∈ current, (c.2 = .stop ↔ on = true)) ∨
      ∃ call : Call, Rest (jobs ++ [⟨call.id, .start, .ok ()⟩]) false done current active ∧
        call.request.job? on = some .start := by
  have atRest (rest : Rest jobs on done current active) :
      done = jobs ∧ (active = true → on = true) ∧ ∀ c ∈ current, (c.2 = .stop ↔ on = true) :=
    ⟨rest.done, fun counts => rest.active ▸ counts, by simp [rest.current]⟩
  match turn, h with
  | none, rest => exact .inl (atRest rest)
  | some (_, .done _), rest => exact .inl (atRest rest)
  | some (_, .choosing), ⟨rest, _⟩ => exact .inl (atRest rest)
  | some (_, .chosen _), ⟨rest, _⟩ => exact .inl (atRest rest)
  | some (_, .cleared), ⟨rest, off, _⟩ =>
    exact .inl ⟨rest.done, by simp [off], by simp [rest.current]⟩
  | some (_, .asked _), ⟨hdone, hcurrent, off, needed⟩ =>
    refine .inl ⟨hdone, by simp [off], fun c hc => ?_⟩
    obtain rfl := Option.mem_some_iff.1 (hcurrent ▸ hc)
    exact Request.job?_eq_stop needed
  | some (call, .started), ⟨rest, needed⟩ => exact .inr ⟨call, rest, needed⟩

/-- Recording counts as on only after it is on. -/
theorem Agrees.on_of_active {jobs done : List Recording} {on active : Bool}
    {current : Option (Nat × Job)} {turn : Option (Call × Stage)}
    (h : Agrees jobs on done current active turn) (counts : active = true) : on = true := by
  rcases h.settled_or_started with ⟨-, hon, -⟩ | ⟨_, rest, -⟩
  · exact hon counts
  · simp [rest.active] at counts

namespace Account

variable {history : List Event} {order : List (Call × Answer)} {recordings : List Recording}
  {current : Option (Nat × Job)} {f f' : Floor} {e : Option Event}

/-- A step that nothing is seen of. -/
theorem silent {order' : List (Call × Answer)} (h : Account history order recordings current f)
    (ledger : f'.Ledger history order')
    (agrees : ∃ jobs on, OneByOne order' jobs on ∧
      Agrees jobs on recordings current f'.active f'.turn) :
    ∃ order' recordings' current',
      Account (history ++ (none : Option Event).toList) order' recordings' current' f' := by
  refine ⟨order', recordings, current, ?_⟩
  rw [Option.toList_none, List.append_nil]
  exact ⟨ledger, h.recorder, agrees⟩

/-- The recorder is asked for a job. -/
theorem asks {call : Call} {stage : Stage} {job : Job}
    (h : Account history order recordings none f) (there : f.turn = some (call, stage))
    (busy : ∀ a, stage ≠ .done a) {jobs : List Recording} {on : Bool}
    (alone : OneByOne order jobs on) (hdone : recordings = jobs)
    (off : f.active = false) (needed : call.request.job? on = some job) :
    Account (history ++ [.asked call.id job]) order recordings (some (call.id, job))
      { f with turn := some (call, .asked job) } where
  ledger := (h.ledger.stage _ _ there busy (by simp)).recorder (by simp) (by simp)
  recorder := by
    rw [List.filter_append, List.filter_cons_of_pos rfl, List.filter_nil, h.recorder]
    simp
  agrees := ⟨jobs, on, alone, hdone, rfl, off, needed⟩

/-- The recorder has done the job. -/
theorem records {call : Call} {job : Job}
    (h : Account history order recordings (some (call.id, job)) f)
    (there : f.turn = some (call, .asked job)) {jobs : List Recording} {on : Bool}
    (alone : OneByOne order jobs on) (hdone : recordings = jobs)
    (off : f.active = false) (needed : call.request.job? on = some job) (outcome : Outcome) :
    ∃ order', Account (history ++ [.recorded call.id job outcome]) order'
      (recordings ++ [⟨call.id, job, outcome⟩]) none
      { f with turn := some (call, call.request.afterJob job outcome) } := by
  let recording : Recording := ⟨call.id, job, outcome⟩
  have hrecorder : (history ++ [Event.recorded call.id job outcome]).filter Event.ofRecorder =
      (recordings ++ [recording]).flatMap Recording.events ++ [] := by
    rw [List.filter_append, List.filter_cons_of_pos rfl, List.filter_nil, h.recorder]
    simp [recording, Recording.events]
  have hrecordings : recordings ++ [recording] = jobs ++ [recording] := by rw [hdone]
  have settled (answer : Answer) (hanswer : call.request.answer job outcome = answer)
      (hafter : call.request.afterJob job outcome = .done answer)
      (hleaves : job.leaves outcome = false) :
      Account (history ++ [.recorded call.id job outcome]) (order ++ [(call, answer)])
        (recordings ++ [recording]) none
        { f with turn := some (call, call.request.afterJob job outcome) } := by
    refine ⟨?_, hrecorder, jobs ++ [recording], false, ?_, ?_⟩
    · rw [hafter]
      exact (h.ledger.done f.active there (by simp)).recorder (by simp) (by simp)
    · have := alone.work needed outcome
      rwa [hanswer, hleaves] at this
    · rw [hafter]
      exact ⟨hrecordings, rfl, off⟩
  cases outcome with
  | error failure => exact ⟨_, settled (.error failure) rfl rfl (by cases job <;> rfl)⟩
  | ok =>
    cases job with
    | stop => exact ⟨_, settled _ (call.request.answer_ok .stop) rfl rfl⟩
    | start =>
      refine ⟨order, ?_, hrecorder, jobs, on, alone, ⟨hrecordings, rfl, off⟩, needed⟩
      exact (h.ledger.stage _ .started there (by simp) (by simp)).recorder (by simp)
        (by simp)

/-- What one step does to the account. -/
theorem step (h : Account history order recordings current f) (step : f.Step e f') :
    ∃ order' recordings' current',
      Account (history ++ e.toList) order' recordings' current' f' := by
  obtain ⟨jobs, on, alone, agrees⟩ := h.agrees
  cases step with
  | begin call fresh =>
    refine ⟨order, recordings, current, h.ledger.begin fresh, ?_, jobs, on, alone, agrees⟩
    simpa [Event.ofRecorder] using h.recorder
  | @seenOn id there active =>
    -- recording counts as on: the recorder has started and nobody is about to stop it
    have hon : on = true := agrees.on_of_active active
    refine h.silent (h.ledger.seen ⟨id, .start⟩ there) ⟨jobs, on, ?_, agrees⟩
    exact alone.needless (by simp [Request.job?, hon])
  | @seenOff id there off =>
    exact h.silent (h.ledger.queue ⟨id, .start⟩ there) ⟨jobs, on, alone, agrees⟩
  | queue there locks => exact h.silent (h.ledger.queue _ there) ⟨jobs, on, alone, agrees⟩
  | @enter call there free =>
    rw [free] at agrees
    exact h.silent (h.ledger.enter there free) ⟨jobs, on, alone, Rest.entry agrees call⟩
  | @choose call there =>
    rw [there] at agrees
    obtain ⟨rest, htoggle⟩ := agrees
    refine h.silent (h.ledger.stage _ _ there (by simp) (by simp)) ⟨jobs, on, alone, rest, .inl ?_⟩
    rw [htoggle, rest.active]
    cases on <;> rfl
  | @needless call job there holds =>
    rw [there] at agrees
    obtain ⟨rest, hwanted⟩ := agrees
    rw [rest.active] at holds
    have hnone : call.request.job? on = none := by
      rcases hwanted with hsome | ⟨hnone, -⟩
      · have := Request.job?_eq_stop hsome
        cases job <;> simp_all
      · exact hnone
    have htoggle : call.request ≠ .toggle := by
      intro htoggle
      rw [htoggle] at hnone
      cases on <;> cases hnone
    refine h.silent (h.ledger.done f.active there (by simp)) ⟨jobs, on, ?_, rest⟩
    simpa [htoggle] using alone.needless hnone
  | @askStart call there off =>
    rw [there] at agrees
    obtain ⟨rest, hwanted⟩ := agrees
    have hon : on = false := rest.active.symm.trans off
    have hjob : call.request.job? on = some .start := by
      rcases hwanted with hsome | ⟨-, hstart⟩
      · exact hsome
      · simp [hon] at hstart
    obtain rfl := rest.current
    exact ⟨_, _, _, h.asks there (by simp) alone rest.done off hjob⟩
  | @clear call there active =>
    rw [there] at agrees
    obtain ⟨rest, hwanted⟩ := agrees
    have hon : on = true := rest.active.symm.trans active
    have hjob : call.request.job? on = some .stop := by
      rcases hwanted with hsome | ⟨-, hstop⟩
      · exact hsome
      · simp [hon] at hstop
    exact h.silent (h.ledger.stage _ _ there (by simp) (by simp))
      ⟨jobs, on, alone, ⟨rest.done, rest.current, rfl⟩, rfl, hjob⟩
  | @askStop call there =>
    rw [there] at agrees
    obtain ⟨rest, off, hjob⟩ := agrees
    obtain rfl := rest.current
    exact ⟨_, _, _, h.asks there (by simp) alone rest.done off hjob⟩
  | @record call job there outcome =>
    rw [there] at agrees
    obtain ⟨hdone, rfl, off, hjob⟩ := agrees
    obtain ⟨order', hafter⟩ := h.records there alone hdone off hjob outcome
    exact ⟨_, _, _, hafter⟩
  | @mark call there =>
    rw [there] at agrees
    obtain ⟨rest, hjob⟩ := agrees
    have hstarted := alone.work hjob (.ok ())
    rw [Request.answer_ok] at hstarted
    exact h.silent (h.ledger.done true there (by simp))
      ⟨_, _, hstarted, rest.done, rest.current, rfl⟩
  | @leave call answer there =>
    rw [there] at agrees
    exact h.silent (h.ledger.leave there) ⟨jobs, on, alone, agrees⟩
  | @answer call answer there =>
    refine ⟨order, recordings, current, h.ledger.answer there, ?_, jobs, on, alone, agrees⟩
    simpa [Event.ofRecorder] using h.recorder

/-- Before anything happens there is nothing to account for. -/
theorem start : Account [] [] [] none {} where
  ledger := {
    served := by simp
    mem_order := by simp [Settled]
    nodup := List.nodup_nil
    begun := by simp [Has]
    answered := by simp
    inOrder := List.Pairwise.nil
  }
  recorder := rfl
  agrees := ⟨[], false, .nobody, rfl, rfl, rfl⟩

/-- Every path has its account. -/
theorem path (h : Path {} history f) :
    ∃ order recordings current, Account history order recordings current f := by
  induction h with
  | refl => exact ⟨[], [], none, start⟩
  | tail _ step ih =>
    obtain ⟨order, recordings, current, account⟩ := ih
    exact account.step step

/-- An account puts the answers in the order of calls one at a time. -/
theorem linearizes (h : Account history order recordings current f) :
    Linearizes history order where
  begun := by
    rintro ⟨call, answer⟩ hmem
    exact (h.ledger.begun call).2 (h.ledger.has_of_settled ((h.ledger.mem_order _ _).1 hmem))
  nodup := h.ledger.nodup
  answered := by
    intro id answer hanswered
    obtain ⟨request, hcall⟩ := (h.ledger.answered id answer).1 hanswered
    exact ⟨(⟨id, request⟩, answer), (h.ledger.mem_order _ _).2 (.inr (.inl hcall)), rfl, rfl⟩
  inOrder := h.ledger.inOrder

/-- What the recorder has done it does for calls one at a time as well. -/
theorem exists_oneByOne (h : Account history order recordings current f) :
    ∃ order' on, OneByOne order' recordings on ∧ ∀ c ∈ current, (c.2 = .stop ↔ on = true) := by
  obtain ⟨jobs, on, alone, agrees⟩ := h.agrees
  rcases agrees.settled_or_started with ⟨hdone, -, hcurrent⟩ | ⟨call, rest, needed⟩
  · exact ⟨order, on, hdone ▸ alone, hcurrent⟩
  · -- as if the start counted already
    exact ⟨_, true, rest.done ▸ alone.work needed (.ok ()), by simp [rest.current]⟩

/-- Of the calls in order the recorder has done all jobs, and maybe one more. -/
theorem exists_prefix (h : Account history order recordings current f) :
    ∃ jobs on, OneByOne order jobs on ∧ jobs <+: recordings := by
  obtain ⟨jobs, on, alone, agrees⟩ := h.agrees
  refine ⟨jobs, on, alone, ?_⟩
  rcases agrees.settled_or_started with ⟨hdone, -, -⟩ | ⟨call, rest, -⟩
  · rw [hdone]
  · rw [rest.done]
    exact List.prefix_append _ _

/-- Once no call is under way, the recorder rests and every call has its answer. -/
theorem quiet (h : Account history order recordings current f) (quiet : f.Quiet) :
    current = none ∧ OneByOne order recordings f.active ∧
      ∀ call, .begun call ∈ history → ∃ answer, .answered call.id answer ∈ history := by
  obtain ⟨hturn, hreturned⟩ := quiet
  obtain ⟨jobs, on, alone, agrees⟩ := h.agrees
  rw [hturn] at agrees
  refine ⟨agrees.current, ?_, fun call hbegun => ?_⟩
  · rw [agrees.done, agrees.active]
    exact alone
  · obtain ⟨status, hcall⟩ := (h.ledger.begun call).1 hbegun
    obtain ⟨answer, rfl⟩ := hreturned _ _ _ hcall
    exact ⟨answer, (h.ledger.answered _ _).2 ⟨_, hcall⟩⟩

end Account

end Floor

/-! ## The guard -/

/-- Only a call that comes in is seen to come in. -/
theorem Guard.eq_begin_of_begun {g : Guard} {u : Use} {call : Call}
    (h : .begun call ∈ (g.use u).2) : u = .begin call := by
  have houtputs (outputs : List Output) : .begun call ∉ outputs.map Output.event := by
    intro hmem
    obtain ⟨output, -, heq⟩ := List.mem_map.1 hmem
    cases output <;> cases heq
  cases u with
  | begin other =>
    rcases List.mem_cons.1 h with heq | hmem
    · rw [Event.begun.inj heq]
    · exact absurd hmem (houtputs _)
  | finish outcome =>
    cases hholder : g.holder with
    | none => simp [use, hholder] at h
    | some entry =>
      simp only [use, hholder, List.mem_cons, reduceCtorEq, false_or] at h
      exact absurd h (houtputs _)

/-- The numbers of some uses and more are those of both. -/
theorem Use.numbers_append (uses more : List Use) :
    numbers (uses ++ more) = numbers uses ++ numbers more := by
  induction uses with
  | nil => rfl
  | cons u uses ih => cases u <;> simp [numbers, ih]

/-- Calls with numbers of their own take, with each use of a guard, steps that calls can take. -/
theorem Follows.useAll (uses : List Use) :
    ∀ {history : List Event} {f : Floor} {g : Guard}, Floor.Path {} history f → Follows f g →
      (∀ call, .begun call ∈ history → call.id ∉ Use.numbers uses) → (Use.numbers uses).Nodup →
      ∃ f', Floor.Path {} (history ++ (g.useAll uses).2) f' ∧ Follows f' (g.useAll uses).1 := by
  induction uses with
  | nil =>
    intro history f g path h _ _
    exact ⟨f, by simpa [Guard.useAll] using path, h⟩
  | cons u uses ih =>
    intro history f g path h fresh nodup
    have hnumbers : Use.numbers (u :: uses) = Use.numbers [u] ++ Use.numbers uses :=
      Use.numbers_append [u] uses
    rw [hnumbers] at nodup fresh
    obtain ⟨-, hrest, hdisjoint⟩ := List.nodup_append.1 nodup
    have hu : ∃ f', Floor.Path f (g.use u).2 f' ∧ Follows f' (g.use u).1 := by
      cases u with
      | finish outcome => exact h.finish outcome
      | begin call =>
        refine h.begin (Option.eq_none_iff_forall_ne_some.2 fun entry hentry => ?_)
        obtain ⟨order, _, _, account⟩ := Floor.Account.path path
        have hbegun := (account.ledger.begun ⟨call.id, entry.1⟩).2 ⟨entry.2, hentry⟩
        exact fresh _ hbegun (by simp [Use.numbers])
    obtain ⟨f', hpath, hfollows⟩ := hu
    have hfresh : ∀ call, .begun call ∈ history ++ (g.use u).2 →
        call.id ∉ Use.numbers uses := by
      intro call hcall hmem
      rcases List.mem_append.1 hcall with hbefore | hnow
      · exact fresh call hbefore (List.mem_append_right _ hmem)
      · rw [Guard.eq_begin_of_begun hnow] at hdisjoint
        exact hdisjoint call.id (by simp [Use.numbers]) call.id hmem rfl
    obtain ⟨f'', hpaths, hfollows'⟩ := ih (path.trans hpath) hfollows hfresh hrest
    refine ⟨f'', ?_, hfollows'⟩
    rwa [List.append_assoc] at hpaths

/-- Calls around a recorder that interleave in any way.

The recorder is asked for one job after the other, and a job is a stop exactly if the job
before was a start that succeeded.  The answers that have been given are those of calls carried
out one at a time, with the recorder doing for each of them what it did, in an order that
respects which calls had returned when others came in.  When no call is in progress, that order
accounts for all the recorder has done and every call has its answer, and recording counts as on
exactly if the last job was a start that succeeded.  The uses of a guard are such calls. -/
theorem linearizable :
    (∀ (history : List Event) (f : Floor), Floor.Path {} history f →
      ∃ (recordings : List Recording) (current : Option (Nat × Job))
        (order : List (Call × Answer)),
        history.filter Event.ofRecorder =
            recordings.flatMap Recording.events ++
              current.toList.map (fun c => .asked c.1 c.2) ∧
          (∀ before r after, recordings = before ++ r :: after →
            (r.job = .stop ↔ endsStarted before = true)) ∧
          (∀ c ∈ current, (c.2 = .stop ↔ endsStarted recordings = true)) ∧
          Linearizes history order ∧
          (∃ jobs on, OneByOne order jobs on ∧ jobs <+: recordings) ∧
          (f.Quiet →
            current = none ∧ OneByOne order recordings f.active ∧
              (∀ call, .begun call ∈ history → ∃ answer, .answered call.id answer ∈ history) ∧
              f.active = endsStarted recordings)) ∧
      ∀ uses : List Use, (Use.numbers uses).Nodup →
        ∃ f, Floor.Path {} (Guard.useAll {} uses).2 f ∧
          f.active = (Guard.useAll {} uses).1.active ∧
          ((Guard.useAll {} uses).1.holder = none → f.Quiet) := by
  refine ⟨fun history f path => ?_, fun uses nodup => ?_⟩
  · obtain ⟨order, recordings, current, account⟩ := Floor.Account.path path
    obtain ⟨_, on, alone, hcurrent⟩ := account.exists_oneByOne
    refine ⟨recordings, current, order, account.recorder, alone.stop_iff, ?_,
      account.linearizes, account.exists_prefix, fun quiet => ?_⟩
    · rwa [← alone.on_eq]
    · obtain ⟨hnone, hall, hanswered⟩ := account.quiet quiet
      exact ⟨hnone, hall, hanswered, hall.on_eq⟩
  · obtain ⟨f, path, follows⟩ := Follows.useAll uses .refl Follows.start (by simp) nodup
    exact ⟨f, path, follows.active, follows.quiet⟩

/-- Two toggles and a start at once, and a stop while the start is at the recorder, which does
not stop when it is asked to the first time. -/
def busyRecorder : List Use :=
  [.begin ⟨1, .toggle⟩, .begin ⟨2, .toggle⟩, .begin ⟨3, .start⟩, .finish (.ok ()),
    .finish (.error (.stopFailed "busy")), .begin ⟨4, .stop⟩, .finish (.ok ()), .finish (.ok ())]

/-- Four calls around a recorder that fails once: all are answered, in the order in which they had
the turn. -/
theorem linearizable_busyRecorder :
    (Use.numbers busyRecorder).Nodup ∧
      ∃ f, Floor.Path {}
          [.begun ⟨1, .toggle⟩, .asked 1 .start, .begun ⟨2, .toggle⟩, .begun ⟨3, .start⟩,
            .recorded 1 .start (.ok ()), .answered 1 (.ok true), .asked 2 .stop,
            .recorded 2 .stop (.error (.stopFailed "busy")),
            .answered 2 (.error (.stopFailed "busy")), .asked 3 .start, .begun ⟨4, .stop⟩,
            .recorded 3 .start (.ok ()), .answered 3 (.ok true), .asked 4 .stop,
            .recorded 4 .stop (.ok ()), .answered 4 (.ok true)] f ∧
        f.Quiet ∧
        ∃ recordings order,
          OneByOne order recordings false ∧ Linearizes (Guard.useAll {} busyRecorder).2 order := by
  have hnodup : (Use.numbers busyRecorder).Nodup := by decide
  obtain ⟨f, path, hactive, hquiet⟩ := linearizable.2 busyRecorder hnodup
  have quiet : f.Quiet := hquiet rfl
  obtain ⟨recordings, _, order, -, -, -, linear, -, hall⟩ := linearizable.1 _ f path
  obtain ⟨-, alone, -, -⟩ := hall quiet
  rw [hactive] at alone
  exact ⟨hnodup, f, path, quiet, recordings, order, alone, linear⟩

end ChatGateway.Voice
