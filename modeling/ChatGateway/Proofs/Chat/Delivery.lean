import Mathlib
import ChatGateway.Proofs.Chat.Timetable

/-!
# What is heard of a reply

A reply that is opened gives what its source gives, in time: the chunks as they are, failures in
words, up to the first end or error, and nothing from the word of a cancelled call on.  If the
source ends before any of these, an empty end is added.  A reply that is cancelled gives what came
before that, and no end.

`Opening.heard` says this of the results of the source that have come by some time.  The deliveries
of a reply are laid down when it is opened; those that have been made so far agree with it
(`Progress.heard_now`, `Progress.heard_all`).
-/

set_option autoImplicit false

namespace ChatGateway.Reply

/-- Whether a result is the word of a call that was cancelled. -/
def IsCancellation : Except Failure Chunk → Bool
  | .error .cancelled => true
  | _ => false

/-- Whether a chunk is the last of its reply: the end, or an error. -/
def IsLast : Chunk → Bool
  | .done _ _ _ => true
  | .error _ => true
  | _ => false

/-- A result as a chunk. -/
def chunkOf : Except Failure Chunk → Chunk
  | .ok c => c
  | .error f => .error (some f.describe)

/-- Whether a reply goes on after a result. -/
def goesOn (result : Except Failure Chunk) : Bool :=
  !IsCancellation result && !IsLast (chunkOf result)

/-- Some chunks up to the first that is the last of a reply. -/
def throughTerminal (chunks : List Chunk) : List Chunk :=
  chunks.takeWhile (fun c => !IsLast c) ++ (chunks.find? IsLast).toList

/-- Whether a time is not beyond a limit, if there is one. -/
def within (limit : Option Nat) (time : Nat) : Bool :=
  limit.all fun l => time ≤ l

/-- A reply that was opened, and when it was cancelled if it was. -/
structure Opening where
  start : Nat
  source : Source
  cancelled : Option Nat := none

namespace Opening

/-- What the source has given by some time, or ever, and before the reply was cancelled. -/
def results (o : Opening) (horizon : Option Nat) : List (Except Failure Chunk) :=
  ((o.source.timed o.start).takeWhile fun r => within (o.cancelled.or horizon) r.1).map Prod.snd

/-- Whether the source has ended by some time, or ever. -/
def hasEnded (o : Opening) (horizon : Option Nat) : Bool :=
  (o.source.endTime o.start).any (within horizon)

/-- What is heard of a reply by some time, or ever. -/
def heard (o : Opening) (horizon : Option Nat) : List Chunk :=
  throughTerminal (((o.results horizon).takeWhile fun r => !IsCancellation r).map chunkOf) ++
    if o.cancelled = none ∧ o.hasEnded horizon = true ∧ (o.results horizon).all goesOn = true then
      [.done none none none]
    else []

/-- The reply as if it had not been cancelled. -/
def uncut (o : Opening) : Opening :=
  { o with cancelled := none }

end Opening

/-- A chunk is the last of its reply exactly if nothing is passed on after it. -/
theorem isTerminal_eq_isLast (c : Chunk) : c.isTerminal = IsLast c := by
  cases c <;> rfl

/-- A failure is a cancellation exactly if nothing is passed on of it. -/
theorem isCancelled_eq_isCancellation (f : Failure) :
    f.isCancelled = IsCancellation (.error f) := by
  cases f <;> rfl

/-! ## Limits in time -/

/-- What is before a time within the limit is within it too. -/
theorem within_of_le {limit : Option Nat} {s t : Nat} (h : within limit t = true) (hst : s ≤ t) :
    within limit s = true := by
  cases limit with
  | none => rfl
  | some l =>
    have ht : t ≤ l := by simpa [within] using h
    have hs : s ≤ l := by omega
    simpa [within] using hs

/-- Of no chunks none is heard. -/
@[simp]
theorem throughTerminal_nil : throughTerminal [] = [] := rfl

/-- The first chunk is heard, and the others if it is not terminal. -/
theorem throughTerminal_cons (c : Chunk) (chunks : List Chunk) :
    throughTerminal (c :: chunks) =
      c :: if IsLast c then [] else throughTerminal chunks := by
  cases h : IsLast c <;> simp [throughTerminal, h]

/-! ## Results one by one -/

section heard

variable (start : Nat) (rest : Source) (limit : Option Nat)

/-- A source that ends at once is heard to end, if it has started by then. -/
theorem heard_nil :
    Opening.heard ⟨start, [], none⟩ limit =
      if within limit start then [.done none none none] else [] := by
  simp [Opening.heard, Opening.results, Opening.hasEnded, Feed.timed, Feed.endTime]

/-- A source that falls silent is not heard. -/
theorem heard_silent (delay : Nat) :
    Opening.heard ⟨start, ⟨delay, none⟩ :: rest, none⟩ limit = [] := by
  simp [Opening.heard, Opening.results, Opening.hasEnded, Feed.timed, Feed.endTime]

/-- A result that comes later than the limit is not heard, nor is anything after it. -/
theorem heard_late {delay : Nat} (x : Except Failure Chunk)
    (late : within limit (start + delay) = false) :
    Opening.heard ⟨start, ⟨delay, some x⟩ :: rest, none⟩ limit = [] := by
  have hresults : Opening.results ⟨start, ⟨delay, some x⟩ :: rest, none⟩ limit = [] := by
    simp [Opening.results, Feed.timed, late]
  have hended : Opening.hasEnded ⟨start, ⟨delay, some x⟩ :: rest, none⟩ limit = false := by
    have hend : Opening.hasEnded ⟨start, ⟨delay, some x⟩ :: rest, none⟩ limit =
        (rest.endTime (start + delay)).any (within limit) := rfl
    rw [hend]
    cases htime : rest.endTime (start + delay) with
    | none => rfl
    | some time =>
      have hle := ((Feed.timed_inOrder (start + delay) rest).2.2 time htime).1
      by_contra hwithin
      have hsoon := within_of_le (Bool.eq_true_of_not_eq_false hwithin) hle
      rw [late] at hsoon
      cases hsoon
  simp [Opening.heard, hresults, hended]

/-- The first result is heard, and the others if it lets the reply go on. -/
theorem heard_cons {delay : Nat} (x : Except Failure Chunk)
    (due : within limit (start + delay) = true) :
    Opening.heard ⟨start, ⟨delay, some x⟩ :: rest, none⟩ limit =
      if IsCancellation x then []
      else chunkOf x :: if IsLast (chunkOf x) then [] else
        Opening.heard ⟨start + delay, rest, none⟩ limit := by
  have hresults : Opening.results ⟨start, ⟨delay, some x⟩ :: rest, none⟩ limit =
      x :: Opening.results ⟨start + delay, rest, none⟩ limit := by
    simp [Opening.results, Feed.timed, due]
  have hended : Opening.hasEnded ⟨start, ⟨delay, some x⟩ :: rest, none⟩ limit =
      Opening.hasEnded ⟨start + delay, rest, none⟩ limit := rfl
  rw [Opening.heard, hresults, hended]
  cases hcancel : IsCancellation x with
  | true => simp [hcancel, goesOn]
  | false =>
    cases hterminal : IsLast (chunkOf x) with
    | true => simp [hcancel, goesOn, throughTerminal_cons, hterminal]
    | false => simp [hcancel, goesOn, throughTerminal_cons, hterminal, Opening.heard]

end heard

/-! ## What is laid down when a reply is opened -/

/-- What a reply delivers and when, if it is not cancelled. -/
def deliveries (start : Nat) (source : Source) : List (Due Chunk) :=
  delivered (source.endTime start) (source.timed start)

/-- A source that ends at once delivers an empty end. -/
theorem deliveries_nil (start : Nat) : deliveries start [] = [⟨start, .finished⟩] := rfl

/-- A source that falls silent delivers nothing. -/
theorem deliveries_silent (start delay : Nat) (rest : Source) :
    deliveries start (⟨delay, none⟩ :: rest) = [] := rfl

/-- The first result is delivered in time, and the others if it lets the reply go on. -/
theorem deliveries_cons (start delay : Nat) (x : Except Failure Chunk) (rest : Source) :
    deliveries start (⟨delay, some x⟩ :: rest) =
      if IsCancellation x then []
      else ⟨start + delay, chunkOf x⟩ :: if IsLast (chunkOf x) then [] else
        deliveries (start + delay) rest := by
  cases x with
  | ok c =>
    cases h : IsLast c <;>
      simp [deliveries, Feed.timed, Feed.endTime, delivered, IsCancellation, chunkOf, h,
        isTerminal_eq_isLast]
  | error f =>
    cases h : IsCancellation (.error f) <;>
      simp [deliveries, Feed.timed, delivered, isCancelled_eq_isCancellation, chunkOf, h,
        Chunk.failed, IsLast]

/-- What a reply delivers by some time is what is heard of it by then. -/
theorem takeWhile_deliveries (limit : Option Nat) (start : Nat) (source : Source) :
    ((deliveries start source).takeWhile fun d => within limit d.time).map Due.what =
      Opening.heard ⟨start, source, none⟩ limit := by
  induction source generalizing start with
  | nil =>
    rw [deliveries_nil, heard_nil]
    cases h : within limit start <;> simp [h, Chunk.finished]
  | cons item rest ih =>
    obtain ⟨delay, result⟩ := item
    cases result with
    | none => rw [deliveries_silent, heard_silent]; rfl
    | some x =>
      rw [deliveries_cons]
      cases hdue : within limit (start + delay) with
      | false =>
        rw [heard_late start rest limit x hdue]
        cases IsCancellation x <;> simp [hdue]
      | true =>
        rw [heard_cons start rest limit x hdue, ← ih]
        cases IsCancellation x <;> cases IsLast (chunkOf x) <;> simp [hdue]

/-- A reply that is cancelled before its source ends is heard as if it went on, up to then. -/
theorem heard_cancelled {start t : Nat} {source : Source} (horizon : Option Nat)
    (early : ∀ time ∈ source.endTime start, t < time) :
    Opening.heard ⟨start, source, some t⟩ horizon =
      Opening.heard ⟨start, source, none⟩ (some t) := by
  have hended : Opening.hasEnded ⟨start, source, none⟩ (some t) = false := by
    cases htime : source.endTime start with
    | none => simp [Opening.hasEnded, htime]
    | some time =>
      have := early time htime
      simp [Opening.hasEnded, htime, within, this]
  simp [Opening.heard, Opening.results, hended]

/-! ## Progress -/

/-- Some chunks of a reply have been delivered by now, and the rest has not been. -/
structure Progress (o : Opening) (now : Nat) (chunks : List Chunk) (rest : List (Due Chunk)) :
    Prop where
  split : ∃ done, deliveries o.start o.source = done ++ rest ∧ chunks = done.map Due.what ∧
    ∀ d ∈ done, d.time ≤ o.cancelled.getD now
  cut : ∀ t ∈ o.cancelled, t ≤ now ∧ (∀ d ∈ rest, t < d.time) ∧
    ∀ time ∈ o.source.endTime o.start, t < time

namespace Progress

variable {o : Opening} {now : Nat} {chunks : List Chunk} {rest : List (Due Chunk)}

/-- At first nothing has been delivered. -/
theorem start (now : Nat) (source : Source) :
    Progress ⟨now, source, none⟩ now [] (deliveries now source) :=
  ⟨⟨[], rfl, rfl, by simp⟩, by simp⟩

/-- Progress is kept while time passes. -/
theorem later (h : Progress o now chunks rest) {now' : Nat} (hle : now ≤ now') :
    Progress o now' chunks rest := by
  obtain ⟨⟨done, hsplit, hchunks, hdone⟩, cut⟩ := h
  refine ⟨⟨done, hsplit, hchunks, fun d hd => ?_⟩, fun t ht => ?_⟩
  · have := hdone d hd
    cases hc : o.cancelled with
    | none =>
      simp only [hc, Option.getD_none] at this ⊢
      omega
    | some t => simpa [hc] using this
  · obtain ⟨hnow, hrest, hend⟩ := cut t ht
    exact ⟨by omega, hrest, hend⟩

/-- What is due is delivered. -/
theorem deliver {due : List (Due Chunk)} (h : Progress o now chunks (due ++ rest))
    (live : o.cancelled = none) (hdue : ∀ d ∈ due, d.time ≤ now) :
    Progress o now (chunks ++ due.map Due.what) rest := by
  obtain ⟨⟨done, hsplit, hchunks, hdone⟩, -⟩ := h
  refine ⟨⟨done ++ due, ?_, ?_, fun d hd => ?_⟩, by simp [live]⟩
  · rw [hsplit, List.append_assoc]
  · rw [hchunks, List.map_append]
  · rw [live, Option.getD_none] at hdone ⊢
    rcases List.mem_append.1 hd with hd | hd
    · exact hdone d hd
    · exact hdue d hd

/-- Nothing of what is left was due when the reply is cancelled. -/
theorem cancel (h : Progress o now chunks rest) (live : o.cancelled = none)
    (hrest : ∀ d ∈ rest, now < d.time)
    (hend : ∀ time ∈ o.source.endTime o.start, now < time) :
    Progress { o with cancelled := some now } now chunks rest := by
  obtain ⟨⟨done, hsplit, hchunks, hdone⟩, -⟩ := h
  rw [live, Option.getD_none] at hdone
  refine ⟨⟨done, hsplit, hchunks, hdone⟩, fun t ht => ?_⟩
  obtain rfl := Option.mem_some_iff.1 ht
  exact ⟨le_rfl, hrest, hend⟩

/-- What has been delivered by a time is what is heard by then, if the rest comes later. -/
theorem heard_of_split {done : List (Due Chunk)} {limit : Option Nat} {start : Nat}
    {source : Source} (hsplit : deliveries start source = done ++ rest)
    (hdone : ∀ d ∈ done, within limit d.time = true)
    (hrest : ∀ d ∈ rest, within limit d.time = false) :
    done.map Due.what = Opening.heard ⟨start, source, none⟩ limit := by
  rw [← takeWhile_deliveries, hsplit, List.takeWhile_append_of_pos hdone]
  cases rest with
  | nil => simp
  | cons d rest => simp [hrest d List.mem_cons_self]

/-- Once nothing of what is left is due, all that can be heard by now has been delivered. -/
theorem heard_now (h : Progress o now chunks rest)
    (settled : o.cancelled = none → ∀ d ∈ rest, now < d.time) :
    chunks = o.heard (some now) := by
  obtain ⟨start, source, cancelled⟩ := o
  obtain ⟨⟨done, hsplit, rfl, hdone⟩, cut⟩ := h
  cases cancelled with
  | none =>
    refine heard_of_split hsplit (fun d hd => ?_) fun d hd => ?_
    · have : d.time ≤ now := hdone d hd
      simpa [within] using this
    · have : now < d.time := settled rfl d hd
      simpa [within] using this
  | some t =>
    obtain ⟨-, hrest, hend⟩ := cut t rfl
    rw [heard_cancelled _ hend]
    refine heard_of_split hsplit (fun d hd => ?_) fun d hd => ?_
    · have : d.time ≤ t := hdone d hd
      simpa [within] using this
    · simpa [within] using hrest d hd

end Progress

end ChatGateway.Reply
