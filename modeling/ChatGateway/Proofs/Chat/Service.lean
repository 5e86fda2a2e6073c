import Mathlib
import ChatGateway.Proofs.Chat.Reception

/-!
# What a service gives of each reply

A service lays down all that a reply will give on one agenda, from which entries are taken in the
order of time and dropped when the reply is cancelled.  What it has given of a reply is then what
is heard of that reply by the time, as it is for tasks that take turns (`chunksOf_eq_heard`).
-/

set_option autoImplicit false

namespace ChatGateway.Reply

namespace Service

/-- What a service can become when replies are opened under numbers of their own and cancelled
while nothing is due for them, which replies were opened, and what the service has given. -/
inductive Reached (sources : Nat → Source) :
    Service → (Nat → Option Opening) → List Envelope → Prop
  | empty : Reached sources {} (fun _ => none) []
  | start {s : Service} {openings : Nat → Option Opening} {received : List Envelope}
      (h : Reached sources s openings received) (stream : Nat) (fresh : openings stream = none) :
      Reached sources (s.start sources stream)
        (Function.update openings stream (some ⟨s.now, sources s.started, none⟩)) received
  | cancel {s : Service} {openings : Nat → Option Opening} {received : List Envelope}
      (h : Reached sources s openings received) {stream : Nat} {o : Opening}
      (there : openings stream = some o) (live : o.cancelled = none)
      (goesOn : ∀ time ∈ o.source.endTime o.start, s.now < time)
      (idle : ∀ e ∈ s.agenda, e.what.stream = stream → s.now < e.time) :
      Reached sources (s.cancel stream)
        (Function.update openings stream (some { o with cancelled := some s.now })) received
  | wait {s : Service} {openings : Nat → Option Opening} {received : List Envelope}
      (h : Reached sources s openings received) (time : Nat) :
      Reached sources (s.wait time).2 openings (received ++ (s.wait time).1)

/-- Whether an entry of an agenda is one of a reply. -/
def isOf (stream : Nat) (e : Due Envelope) : Bool :=
  e.what.stream = stream

/-- What a service has given and will give of each reply. -/
structure Accounted (s : Service) (openings : Nat → Option Opening) (received : List Envelope) :
    Prop where
  inOrder : Agenda.InOrder s.agenda
  opened : ∀ stream o, openings stream = some o → ∃ rest,
    Progress o s.now (chunksOf stream received) rest ∧
      s.agenda.filter (isOf stream) =
        if o.cancelled = none then rest.map (Due.map (Envelope.mk stream)) else []
  others : ∀ stream, openings stream = none →
    chunksOf stream received = [] ∧ s.agenda.filter (isOf stream) = []

namespace Accounted

variable {s : Service} {openings : Nat → Option Opening} {received : List Envelope}

/-- A new service has nothing to account for. -/
theorem empty : Accounted {} (fun _ => none) [] :=
  ⟨List.Pairwise.nil, by simp, fun _ _ => ⟨rfl, rfl⟩⟩

/-- A reply that is started is accounted for. -/
theorem start (h : Accounted s openings received) (sources : Nat → Source) {stream : Nat}
    (fresh : openings stream = none) :
    Accounted (s.start sources stream)
      (Function.update openings stream (some ⟨s.now, sources s.started, none⟩)) received := by
  obtain ⟨hreceived, hagenda⟩ := h.others stream fresh
  have hown : ∀ d ∈ envelopes s.now stream (sources s.started), isOf stream d = true := by
    intro d hd
    obtain ⟨_, -, rfl⟩ := List.mem_map.1 hd
    simp [isOf]
  have hds : Agenda.InOrder (envelopes s.now stream (sources s.started)) := by
    refine List.pairwise_map.2 ?_
    exact ((delivered_timed s.now (sources s.started)).2).imp fun h => h.1
  have hother (other : Nat) (hne : other ≠ stream) :
      (s.start sources stream).agenda.filter (isOf other) = s.agenda.filter (isOf other) := by
    refine Agenda.filter_insertAll_of_neg s.agenda fun d hd => ?_
    obtain ⟨_, -, rfl⟩ := List.mem_map.1 hd
    simpa [isOf] using Ne.symm hne
  refine ⟨Agenda.inOrder_insertAll h.inOrder _, fun other o ho => ?_, fun other ho => ?_⟩
  · by_cases hne : other = stream
    · subst hne
      obtain rfl := by simpa using ho
      refine ⟨deliveries s.now (sources s.started), hreceived ▸ Progress.start _ _, ?_⟩
      have hnone : ∀ e ∈ s.agenda, isOf other e = true →
          ∀ d ∈ envelopes s.now other (sources s.started), e.time ≤ d.time := by
        intro e he hisOf
        exact absurd hisOf (List.filter_eq_nil_iff.1 hagenda e he)
      have hfilter := Agenda.filter_insertAll_of_pos h.inOrder hds hown hnone
      rw [hagenda, List.nil_append] at hfilter
      exact hfilter
    · rw [Function.update_of_ne hne] at ho
      rw [hother other hne]
      exact h.opened other o ho
  · have hne : other ≠ stream := by
      rintro rfl
      simp at ho
    rw [Function.update_of_ne hne] at ho
    rw [hother other hne]
    exact h.others other ho

/-- A reply that is cancelled stays accounted for. -/
theorem cancel (h : Accounted s openings received) {stream : Nat} {o : Opening}
    (there : openings stream = some o) (live : o.cancelled = none)
    (goesOn : ∀ time ∈ o.source.endTime o.start, s.now < time)
    (idle : ∀ e ∈ s.agenda, e.what.stream = stream → s.now < e.time) :
    Accounted (s.cancel stream)
      (Function.update openings stream (some { o with cancelled := some s.now })) received := by
  have hother (other : Nat) (hne : other ≠ stream) :
      (s.cancel stream).agenda.filter (isOf other) = s.agenda.filter (isOf other) := by
    refine (List.filter_filter ..).trans (List.filter_congr fun e _ => ?_)
    by_cases hisOf : e.what.stream = other
    · simp [isOf, hisOf, hne]
    · simp [isOf, hisOf]
  have hown : (s.cancel stream).agenda.filter (isOf stream) = [] := by
    refine List.filter_eq_nil_iff.2 fun e he => ?_
    have hdropped := (List.mem_filter.1 he).2
    simpa [isOf] using hdropped
  refine ⟨h.inOrder.filter _, fun other o' ho => ?_, fun other ho => ?_⟩
  · by_cases hne : other = stream
    · subst hne
      obtain rfl := by simpa using ho
      obtain ⟨rest, hprogress, hagenda⟩ := h.opened other o there
      refine ⟨rest, hprogress.cancel live (fun d hd => ?_) goesOn, hown⟩
      have hentry : d.map (Envelope.mk other) ∈ s.agenda.filter (isOf other) := by
        rw [hagenda, if_pos live]
        exact List.mem_map_of_mem hd
      exact idle _ (List.mem_filter.1 hentry).1 rfl
    · rw [Function.update_of_ne hne] at ho
      rw [hother other hne]
      exact h.opened other o' ho
  · have hne : other ≠ stream := by
      rintro rfl
      simp at ho
    rw [Function.update_of_ne hne] at ho
    rw [hother other hne]
    exact h.others other ho

/-- The chunks of a reply on an agenda are those of its entries. -/
theorem chunksOf_what (stream : Nat) (agenda : Agenda Envelope) :
    chunksOf stream (agenda.map Due.what) =
      (agenda.filter (isOf stream)).map fun e => e.what.chunk := by
  induction agenda with
  | nil => rfl
  | cons e es ih =>
    by_cases h : e.what.stream = stream
    · simpa [chunksOf, isOf, h] using ih
    · simpa [chunksOf, isOf, h] using ih

/-- The replies stay accounted for while time passes. -/
theorem wait (h : Accounted s openings received) (time : Nat) :
    Accounted (s.wait time).2 openings (received ++ (s.wait time).1) := by
  have hparts (stream : Nat) :
      chunksOf stream (s.wait time).1 =
          ((s.agenda.filter (isOf stream)).takeWhile fun d => d.time ≤ s.now + time).map
            (fun e => e.what.chunk) ∧
        (s.wait time).2.agenda.filter (isOf stream) =
          (s.agenda.filter (isOf stream)).dropWhile fun d => d.time ≤ s.now + time := by
    obtain ⟨htake, hdrop⟩ :=
      @Agenda.filter_takeWhile _ (isOf stream) _ h.inOrder (s.now + time)
    exact ⟨(chunksOf_what stream _).trans (by rw [htake]), hdrop⟩
  refine ⟨h.inOrder.sublist (List.dropWhile_sublist _), fun stream o ho => ?_,
    fun stream ho => ?_⟩
  · obtain ⟨rest, hprogress, hagenda⟩ := h.opened stream o ho
    obtain ⟨hchunks, hrest⟩ := hparts stream
    rw [chunksOf_append, hchunks, hrest, hagenda]
    have hlater := hprogress.later (Nat.le_add_right s.now time)
    by_cases live : o.cancelled = none
    · simp only [live, ↓reduceIte, List.takeWhile_map, List.dropWhile_map, List.map_map]
      rw [← List.takeWhile_append_dropWhile (p := fun d => decide (d.time ≤ s.now + time))
        (l := rest)] at hlater
      refine ⟨_, hlater.deliver live fun d hd => ?_, rfl⟩
      simpa using List.mem_takeWhile_imp hd
    · simp only [live, ↓reduceIte, List.takeWhile_nil, List.dropWhile_nil, List.map_nil,
        List.append_nil]
      exact ⟨rest, hlater, trivial⟩
  · obtain ⟨hreceived, hagenda⟩ := h.others stream ho
    obtain ⟨hchunks, hrest⟩ := hparts stream
    rw [chunksOf_append, hchunks, hrest, hreceived, hagenda]
    exact ⟨rfl, rfl⟩

end Accounted

end Service

/-- One source that goes on, one that fails, and one that ends without a word. -/
def threeSources : Nat → Source
  | 0 => [⟨1, some (.ok (.delta "a"))⟩, ⟨2, some (.ok (.delta "é"))⟩, ⟨5, some (.ok (.delta "c"))⟩]
  | 1 => [⟨2, some (.ok (.delta "x"))⟩, ⟨2, some (.error (.invalid "no"))⟩,
      ⟨0, some (.ok (.delta "late"))⟩]
  | _ => [⟨1, some (.ok (.delta "y"))⟩]

/-- A task that is woken late may pass on more than what is heard of a reply that was cancelled. -/
theorem late_task_goes_on :
    ∃ r task, Reception.Reaches {} r ∧ r.tasks 7 = some task ∧
      task.opening = ⟨0, threeSources 0, some 1⟩ ∧
      chunksOf 7 r.channel = [.delta "a", .delta "é"] ∧ task.opening.heard none = [.delta "a"] := by
  have opened : Reception.Reaches {} _ := .single (.start 7 (threeSources 0) rfl)
  have first := (opened.tail (.wait 1)).tail
    (@Reception.Step.take _ 7 _ 0 1 _ _ _ rfl rfl rfl (by decide))
  have cut := first.tail (@Reception.Step.cancel _ 7 _ 1 _ rfl rfl rfl
    (by rintro _ _ ⟨⟩ _ _ _ ⟨⟩; decide))
  have late := (cut.tail (.wait 2)).tail
    (@Reception.Step.take _ 7 _ 1 2 _ _ _ rfl rfl rfl (by decide))
  exact ⟨_, _, late, rfl, rfl, rfl, rfl⟩

end ChatGateway.Reply
