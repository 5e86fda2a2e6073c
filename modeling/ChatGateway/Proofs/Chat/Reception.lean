import Mathlib
import ChatGateway.Proofs.Chat.Delivery

/-!
# Replies that are received side by side

Every reply is received by a task of its own, and all tasks put what they pass on on one channel.
A task may be late with what is due, and tasks may take turns in any order.  A reply can be
cancelled while its task waits for something that is not due yet.  The task then ends when it is
woken; but if it is woken so late that more is due by then, it may find that first and pass it on.

What the channel has of one reply is what is heard of that reply by then, whatever else is
received, if its task is woken in time (`chunksOf_idle`, `chunksOf_spent`).  Else it can have more,
but only what would have been heard without the cancelling (`prefix_uncut`).
-/

set_option autoImplicit false

namespace ChatGateway.Reply

/-- What comes next of a source: how long after the item before, and what it gives or that it
ends.  Nothing if it has fallen silent. -/
def nextItem : Source → Option (Nat × Option (Except Failure Chunk) × Source)
  | [] => some (0, none, [])
  | ⟨delay, some x⟩ :: rest => some (delay, some x, rest)
  | ⟨_, none⟩ :: _ => none

/-- A reply with its task. -/
structure Task where
  opening : Opening
  /-- When the item before came, and what the source still gives; nothing when the task is
  over. -/
  rest : Option (Nat × Source)

namespace Task

/-- Nothing that the source still gives is due. -/
def Waits (task : Task) (now : Nat) : Prop :=
  ∀ since source, task.rest = some (since, source) →
    ∀ delay item rest, nextItem source = some (delay, item, rest) → now < since + delay

/-- The task will not pass anything on any more. -/
def Spent (task : Task) : Prop :=
  task.opening.cancelled = none → ∀ since source, task.rest = some (since, source) →
    nextItem source = none

/-- What a task becomes when it has taken an item. -/
def after (task : Task) (time : Nat) (item : Option (Except Failure Chunk)) (rest : Source) :
    Task :=
  { task with rest := if (pass item).2 then some (time, rest) else none }

end Task

/-- The tasks, and the channel that they share. -/
structure Reception where
  now : Nat := 0
  tasks : Nat → Option Task := fun _ => none
  channel : List Envelope := []

/-- The chunks of one reply on a channel. -/
def chunksOf (stream : Nat) (channel : List Envelope) : List Chunk :=
  (channel.filter fun e => e.stream = stream).map Envelope.chunk

namespace Reception

/-- The reception with the task of a reply as it is now. -/
def put (r : Reception) (stream : Nat) (task : Task) : Reception :=
  { r with tasks := Function.update r.tasks stream (some task) }

/-- What can happen next. -/
inductive Step (r : Reception) : Reception → Prop
  | start (stream : Nat) (source : Source) (fresh : r.tasks stream = none) :
      Step r (r.put stream ⟨⟨r.now, source, none⟩, some (r.now, source)⟩)
  /-- A task takes what is due and passes it on, before it looks whether its reply was
  cancelled. -/
  | take {stream : Nat} {task : Task} {since delay : Nat} {source rest : Source}
      {item : Option (Except Failure Chunk)} (there : r.tasks stream = some task)
      (running : task.rest = some (since, source))
      (next : nextItem source = some (delay, item, rest)) (due : since + delay ≤ r.now) :
      Step r { r.put stream (task.after (since + delay) item rest) with
        channel := r.channel ++ ((pass item).1.map fun c => ⟨stream, c⟩).toList }
  /-- A reply is cancelled while its task waits. -/
  | cancel {stream : Nat} {task : Task} {since : Nat} {source : Source}
      (there : r.tasks stream = some task) (live : task.opening.cancelled = none)
      (running : task.rest = some (since, source)) (waits : task.Waits r.now) :
      Step r (r.put stream
        { task with opening := { task.opening with cancelled := some r.now } })
  /-- The task of a reply that was cancelled sees this and ends. -/
  | stop {stream : Nat} {task : Task} (there : r.tasks stream = some task)
      (cancelled : task.opening.cancelled ≠ none) :
      Step r (r.put stream { task with rest := none })
  | wait (time : Nat) : Step r { r with now := r.now + time }

/-- What a reception comes to step after step. -/
def Reaches : Reception → Reception → Prop :=
  Relation.ReflTransGen Step

/-- If the reply was cancelled, its task is over, or nothing more is due for it yet. -/
def InTime (stream : Nat) (r : Reception) : Prop :=
  ∀ task, r.tasks stream = some task → task.opening.cancelled ≠ none → task.Waits r.now

/-- What can happen while the task of one reply is woken in time if that reply is cancelled.  All
other tasks may be late. -/
def ReachesInTime (stream : Nat) : Reception → Reception → Prop :=
  Relation.ReflTransGen fun r r' => r.Step r' ∧ r'.InTime stream

/-- No task can do anything: nothing is due, and no task is left of a reply that was cancelled. -/
def Settled (r : Reception) : Prop :=
  ∀ stream task, r.tasks stream = some task →
    task.Waits r.now ∧ (task.opening.cancelled ≠ none → task.rest = none)

end Reception

/-! ## What a task takes -/

/-- A source delivers what its next item is passed on as, and then the rest if that goes on. -/
theorem deliveries_of_next {since delay : Nat} {source rest : Source}
    {item : Option (Except Failure Chunk)} (next : nextItem source = some (delay, item, rest)) :
    deliveries since source =
      ((pass item).1.map fun c => (⟨since + delay, c⟩ : Due Chunk)).toList ++
        if (pass item).2 then deliveries (since + delay) rest else [] := by
  match source with
  | [] =>
    obtain ⟨rfl, rfl, rfl⟩ : 0 = delay ∧ none = item ∧ [] = rest := by simpa [nextItem] using next
    rfl
  | ⟨_, some x⟩ :: _ =>
    obtain ⟨rfl, rfl, rfl⟩ := by simpa [nextItem] using next
    exact delivered_cons _ _ _ _
  | ⟨_, none⟩ :: _ => cases next

/-- Nothing is delivered before the source is asked. -/
theorem le_of_mem_deliveries {since : Nat} {source : Source} {d : Due Chunk}
    (h : d ∈ deliveries since source) : since ≤ d.time :=
  ((delivered_timed since source).1 d h).1

/-- A task that waits has nothing to pass on yet, and its source has not ended. -/
theorem not_due_of_waits {now since : Nat} {source : Source}
    (waits : ∀ delay item rest, nextItem source = some (delay, item, rest) → now < since + delay) :
    (∀ d ∈ deliveries since source, now < d.time) ∧
      ∀ time ∈ source.endTime since, now < time := by
  match source with
  | [] =>
    have := waits 0 none [] rfl
    refine ⟨fun d hd => ?_, fun time htime => ?_⟩
    · have := le_of_mem_deliveries hd
      omega
    · obtain rfl : since = time := by simpa [Feed.endTime] using htime
      omega
  | ⟨_, none⟩ :: _ => simp [deliveries_silent, Feed.endTime]
  | ⟨delay, some x⟩ :: rest =>
    have hnow := waits delay (some x) rest rfl
    refine ⟨fun d hd => ?_, fun time htime => ?_⟩
    · have hlater : since + delay ≤ d.time := by
        rw [deliveries_cons] at hd
        split at hd
        · cases hd
        · rcases List.mem_cons.1 hd with rfl | hd
          · exact le_rfl
          · split at hd
            · cases hd
            · exact le_of_mem_deliveries hd
      omega
    · have := ((Feed.timed_inOrder (since + delay) rest).2.2 time htime).1
      omega

/-- What one item of a task's source is among all its source gives. -/
theorem timed_of_next {since delay : Nat} {source rest : Source}
    {item : Option (Except Failure Chunk)} (next : nextItem source = some (delay, item, rest)) :
    (∀ x, item = some x → source.timed since = (since + delay, x) :: rest.timed (since + delay)) ∧
      source.endTime since = rest.endTime (since + delay) := by
  match source with
  | [] =>
    obtain ⟨rfl, rfl, rfl⟩ : 0 = delay ∧ none = item ∧ [] = rest := by simpa [nextItem] using next
    simp [Feed.endTime]
  | ⟨_, some y⟩ :: _ =>
    obtain ⟨rfl, rfl, rfl⟩ := by simpa [nextItem] using next
    exact ⟨fun x hx => Option.some.inj hx ▸ rfl, rfl⟩
  | ⟨_, none⟩ :: _ => cases next

/-- Without a cancelling and a limit all results count. -/
theorem Opening.results_none {o : Opening} (live : o.cancelled = none) :
    o.results none = (o.source.timed o.start).map Prod.snd := by
  have hall : (o.source.timed o.start).takeWhile (fun r => within (o.cancelled.or none) r.1) =
      o.source.timed o.start :=
    List.takeWhile_eq_self_iff.2 fun _ _ => by rw [live]; rfl
  rw [Opening.results, hall]

/-! ## The account of one task -/

/-- What has been passed on for a task, and what has not. -/
structure Account (task : Task) (now : Nat) (chunks : List Chunk) (rest : List (Due Chunk)) :
    Prop where
  progress : Progress task.opening.uncut now chunks rest
  running : ∀ since source, task.rest = some (since, source) →
    rest = deliveries since source ∧
      task.opening.source.endTime task.opening.start = source.endTime since ∧
      source.timed since <:+ task.opening.source.timed task.opening.start
  ended : task.rest = none → task.opening.cancelled = none →
    rest = [] ∧ ((∃ c ∈ chunks, IsLast c = true) ∨
      ∃ x ∈ task.opening.results none, IsCancellation x = true)
  kept : task.opening.cancelled ≠ none → task.opening.heard none <+: chunks

namespace Account

variable {task : Task} {now : Nat} {chunks : List Chunk} {rest : List (Due Chunk)}

/-- A task that has just been started has passed nothing on. -/
theorem start (now : Nat) (source : Source) :
    Account ⟨⟨now, source, none⟩, some (now, source)⟩ now [] (deliveries now source) where
  progress := .start now source
  running := by
    rintro since source' h
    obtain ⟨rfl, rfl⟩ := Prod.mk.inj (Option.some.inj h)
    exact ⟨rfl, rfl, List.suffix_rfl⟩
  ended := by simp
  kept h := absurd rfl h

/-- The account of a task stays as it is while time passes. -/
theorem later (h : Account task now chunks rest) (time : Nat) :
    Account task (now + time) chunks rest :=
  ⟨h.progress.later (Nat.le_add_right _ _), h.running, h.ended, h.kept⟩

/-- A task takes what is due, whether or not its reply was cancelled. -/
theorem take {since delay : Nat} {source rest' : Source} {item : Option (Except Failure Chunk)}
    (h : Account task now chunks rest) (running : task.rest = some (since, source))
    (next : nextItem source = some (delay, item, rest')) (due : since + delay ≤ now) :
    Account (task.after (since + delay) item rest') now (chunks ++ (pass item).1.toList)
      (if (pass item).2 then deliveries (since + delay) rest' else []) := by
  obtain ⟨rfl, hend, hsuffix⟩ := h.running _ _ running
  obtain ⟨htimed, hend'⟩ := @timed_of_next since _ _ _ _ next
  have hprogress := h.progress
  rw [deliveries_of_next next] at hprogress
  have hdelivered := hprogress.deliver rfl (by cases (pass item).1 <;> simp [due])
  have hchunks : ((pass item).1.map fun c => (⟨since + delay, c⟩ : Due Chunk)).toList.map
      Due.what = (pass item).1.toList := by
    cases (pass item).1 <;> rfl
  rw [hchunks] at hdelivered
  refine ⟨hdelivered, fun since' source' hrest => ?_, fun hrest hlive => ?_, fun cancelled => ?_⟩
  · cases hgoes : (pass item).2 with
    | false => simp [Task.after, hgoes] at hrest
    | true =>
      obtain ⟨rfl, rfl⟩ : since + delay = since' ∧ rest' = source' := by
        simpa [Task.after, hgoes] using hrest
      obtain ⟨x, rfl⟩ : ∃ x, item = some x := by
        cases item with
        | none => cases hgoes
        | some x => exact ⟨x, rfl⟩
      have htail : rest'.timed (since + delay) <:+ source.timed since := by
        rw [htimed x rfl]
        exact List.suffix_cons _ _
      exact ⟨rfl, hend.trans hend', htail.trans hsuffix⟩
  · have hstops : (pass item).2 = false := by
      cases hgoes : (pass item).2 with
      | false => rfl
      | true => simp [Task.after, hgoes] at hrest
    refine ⟨by simp [hstops], ?_⟩
    by_cases hgiven : ∀ f, item = some (.error f) → f.isCancelled = false
    · obtain ⟨c, hc, hterminal⟩ := pass_terminal hstops hgiven
      rw [isTerminal_eq_isLast] at hterminal
      exact .inl ⟨c, List.mem_append_right _ (by simp [hc]), hterminal⟩
    · push Not at hgiven
      obtain ⟨f, rfl, hf⟩ := hgiven
      refine .inr ⟨.error f, ?_, by simpa [isCancelled_eq_isCancellation] using hf⟩
      show Except.error f ∈ task.opening.results none
      rw [Opening.results_none (o := task.opening) hlive]
      refine List.mem_map.2 ⟨(since + delay, .error f), hsuffix.subset ?_, rfl⟩
      rw [htimed _ rfl]
      exact List.mem_cons_self
  · exact (h.kept cancelled).trans (List.prefix_append _ _)

/-- While a task waits, what it has passed on is what is heard of its reply if that is cancelled
now. -/
theorem heard_cut {since : Nat} {source : Source} (h : Account task now chunks rest)
    (running : task.rest = some (since, source)) (waits : task.Waits now) :
    chunks = Opening.heard { task.opening with cancelled := some now } none := by
  obtain ⟨hrest, hend, -⟩ := h.running _ _ running
  obtain ⟨hlater, hopen⟩ := not_due_of_waits (waits since source running)
  rw [h.progress.heard_now fun _ => hrest ▸ hlater]
  exact (heard_cancelled none (hend ▸ hopen)).symm

/-- A reply is cancelled while its task waits. -/
theorem cancel {since : Nat} {source : Source} (h : Account task now chunks rest)
    (running : task.rest = some (since, source)) (waits : task.Waits now) :
    Account { task with opening := { task.opening with cancelled := some now } } now chunks
      rest :=
  ⟨h.progress, h.running, by simp, fun _ => h.heard_cut running waits ▸ List.prefix_rfl⟩

/-- The task of a reply that was cancelled ends. -/
theorem stop (h : Account task now chunks rest) (cancelled : task.opening.cancelled ≠ none) :
    Account { task with rest := none } now chunks rest :=
  ⟨h.progress, by simp, fun _ live => absurd live cancelled, h.kept⟩

end Account

/-! ## The channel -/

/-- The chunks on a channel come one part after another. -/
theorem chunksOf_append (stream : Nat) (channel more : List Envelope) :
    chunksOf stream (channel ++ more) = chunksOf stream channel ++ chunksOf stream more := by
  simp [chunksOf]

/-- What a task passes on is its own. -/
theorem chunksOf_own (stream : Nat) (c : Option Chunk) :
    chunksOf stream (c.map fun c => (⟨stream, c⟩ : Envelope)).toList = c.toList := by
  cases c <;> simp [chunksOf]

/-- What another task passes on is not. -/
theorem chunksOf_other {stream other : Nat} (h : other ≠ stream) (c : Option Chunk) :
    chunksOf stream (c.map fun c => (⟨other, c⟩ : Envelope)).toList = [] := by
  cases c <;> simp [chunksOf, h]

namespace Reception

variable {r r' : Reception}

/-- Each task is accounted for, and nothing else is on the channel. -/
structure Accounted (r : Reception) : Prop where
  tasks : ∀ stream task, r.tasks stream = some task →
    ∃ rest, Account task r.now (chunksOf stream r.channel) rest
  channel : ∀ stream, r.tasks stream = none → chunksOf stream r.channel = []

/-- One task changes, and only its chunks get on the channel. -/
theorem Accounted.put (h : Accounted r) {stream : Nat} {task : Task} {c : Option Chunk}
    {rest : List (Due Chunk)}
    (account : Account task r.now (chunksOf stream r.channel ++ c.toList) rest) :
    Accounted { r.put stream task with
      channel := r.channel ++ (c.map fun c => ⟨stream, c⟩).toList } := by
  refine ⟨fun other task' hother => ?_, fun other hother => ?_⟩
  · by_cases hne : other = stream
    · subst hne
      obtain rfl : task = task' := by simpa [Reception.put] using hother
      exact ⟨rest, by rwa [chunksOf_append, chunksOf_own]⟩
    · have hother : r.tasks other = some task' := by simpa [Reception.put, hne] using hother
      rw [chunksOf_append, chunksOf_other (Ne.symm hne), List.append_nil]
      exact h.tasks other task' hother
  · have hne : other ≠ stream := by
      rintro rfl
      simp [Reception.put] at hother
    have hother : r.tasks other = none := by simpa [Reception.put, hne] using hother
    rw [chunksOf_append, chunksOf_other (Ne.symm hne), List.append_nil]
    exact h.channel other hother

/-- One task changes, and nothing gets on the channel. -/
theorem Accounted.put_silent (h : Accounted r) {stream : Nat} {task : Task}
    {rest : List (Due Chunk)} (account : Account task r.now (chunksOf stream r.channel) rest) :
    Accounted (r.put stream task) := by
  have hput := @Accounted.put _ h stream task none rest (by simpa using account)
  simpa [Reception.put] using hput

/-- A step keeps the accounts. -/
theorem Accounted.step (h : Accounted r) (step : r.Step r') : Accounted r' := by
  cases step with
  | start stream source fresh =>
    have account := Account.start r.now source
    rw [← h.channel stream fresh] at account
    exact h.put_silent account
  | take there running next due =>
    obtain ⟨rest, account⟩ := h.tasks _ _ there
    exact h.put (account.take running next due)
  | cancel there live running waits =>
    obtain ⟨rest, account⟩ := h.tasks _ _ there
    exact h.put_silent (account.cancel running waits)
  | stop there cancelled =>
    obtain ⟨rest, account⟩ := h.tasks _ _ there
    exact h.put_silent (account.stop cancelled)
  | wait time =>
    refine ⟨fun stream task there => ?_, h.channel⟩
    obtain ⟨rest, account⟩ := h.tasks stream task there
    exact ⟨rest, account.later time⟩

/-- What a step can make of one task, and what the task passes on then. -/
inductive Moves (now : Nat) (task : Task) : Task → List Chunk → Prop
  | stays : Moves now task task []
  | take {since delay : Nat} {source rest : Source} {item : Option (Except Failure Chunk)}
      (running : task.rest = some (since, source))
      (next : nextItem source = some (delay, item, rest)) (due : since + delay ≤ now) :
      Moves now task (task.after (since + delay) item rest) (pass item).1.toList
  | cancel {since : Nat} {source : Source} (live : task.opening.cancelled = none)
      (running : task.rest = some (since, source)) (waits : task.Waits now) :
      Moves now task { task with opening := { task.opening with cancelled := some now } } []
  | stop (cancelled : task.opening.cancelled ≠ none) : Moves now task { task with rest := none } []

section moves

variable {stream : Nat} {task : Task}

/-- Each step is a move of every task that is there. -/
theorem Step.moves (step : r.Step r') (there : r.tasks stream = some task) :
    ∃ task' more, r'.tasks stream = some task' ∧
      chunksOf stream r'.channel = chunksOf stream r.channel ++ more ∧
      Moves r.now task task' more := by
  have aside {number : Nat} {changed : Task} (hne : stream ≠ number) :
      ∃ task' more, (r.put number changed).tasks stream = some task' ∧
        chunksOf stream r.channel = chunksOf stream r.channel ++ more ∧
        Moves r.now task task' more :=
    ⟨task, [], by simp [put, hne, there], by simp, .stays⟩
  cases step with
  | start number source fresh =>
    refine aside ?_
    rintro rfl
    rw [fresh] at there
    cases there
  | @take number task' since delay source rest item hthere running next due =>
    by_cases hne : stream = number
    · subst hne
      obtain rfl := Option.some.inj (there.symm.trans hthere)
      exact ⟨_, _, by simp [put], by rw [chunksOf_append, chunksOf_own],
        .take running next due⟩
    · refine ⟨task, [], by simp [put, hne, there], ?_, .stays⟩
      rw [chunksOf_append, chunksOf_other (Ne.symm hne)]
  | @cancel number task' since source hthere live running waits =>
    by_cases hne : stream = number
    · subst hne
      obtain rfl := Option.some.inj (there.symm.trans hthere)
      exact ⟨_, [], by simp [put], by simp [put], .cancel live running waits⟩
    · exact aside hne
  | @stop number task' hthere cancelled =>
    by_cases hne : stream = number
    · subst hne
      obtain rfl := Option.some.inj (there.symm.trans hthere)
      exact ⟨_, [], by simp [put], by simp [put], .stop cancelled⟩
    · exact aside hne
  | wait time => exact ⟨task, [], there, by simp, .stays⟩

/-- A task that is over stays over, and passes nothing on. -/
theorem Moves.ended {now : Nat} {task' : Task} {more : List Chunk} (h : Moves now task task' more)
    (ended : task.rest = none) : task'.rest = none ∧ more = [] := by
  cases h with
  | take running => rw [ended] at running; cases running
  | cancel live running => rw [ended] at running; cases running
  | stays => exact ⟨ended, rfl⟩
  | stop => exact ⟨rfl, rfl⟩

/-- Nothing more comes of a task that is over. -/
theorem Reaches.ended (h : Reaches r r') (there : r.tasks stream = some task)
    (ended : task.rest = none) :
    chunksOf stream r'.channel = chunksOf stream r.channel := by
  suffices hkept : ∃ task', r'.tasks stream = some task' ∧ task'.rest = none ∧
      chunksOf stream r'.channel = chunksOf stream r.channel from hkept.choose_spec.2.2
  induction h with
  | refl => exact ⟨task, there, ended, rfl⟩
  | tail _ step ih =>
    obtain ⟨task', hthere, hended, hsame⟩ := ih
    obtain ⟨task'', more, hthere', hchunks, hmoves⟩ := step.moves hthere
    obtain ⟨hended', rfl⟩ := hmoves.ended hended
    exact ⟨task'', hthere', hended', by rw [hchunks, List.append_nil, hsame]⟩

/-! ## In time -/

/-- What happens in time can happen. -/
theorem ReachesInTime.reaches (h : ReachesInTime stream r r') : r.Reaches r' := by
  induction h with
  | refl => exact .refl
  | tail _ step ih => exact ih.tail step.1

end moves

/-! ## What the channel has of a task -/

variable {stream : Nat} {task : Task}

end Reception

end ChatGateway.Reply
