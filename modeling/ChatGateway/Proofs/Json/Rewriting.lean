import Mathlib
import ChatGateway.Proofs.Json.Bounds
import ChatGateway.Json.Decode

/-!
# Objects written otherwise

The members of an object may stand in any order, members that nobody asks for may stand among
them, and an optional member may be null as well as missing.  A record decodes to the same from all
of these, because each of its parts looks at its own member only (`Apart`), so that members may
change places, and because a part that is null leaves the finished record as it is.
-/

set_option autoImplicit false

namespace ChatGateway.Json

/-- One step from an object to another that says the same to a record with the members `owned`.
`inside` says which values of a member may be put for each other. -/
inductive Rewrite (owned optional : List String) (inside : String → Json → Json → Prop) :
    List (String × Json) → List (String × Json) → Prop
  | reordered {ms ms' : List (String × Json)} (perm : ms.Perm ms') :
      Rewrite owned optional inside ms ms'
  | foreign {ms : List (String × Json)} {name : String} {v : Json} (foreign : name ∉ owned) :
      Rewrite owned optional inside ms ((name, v) :: ms)
  | nulled {ms : List (String × Json)} {name : String} (may : name ∈ optional)
      (absent : ∀ m ∈ ms, m.1 ≠ name) : Rewrite owned optional inside ms ((name, .null) :: ms)
  | within {ms : List (String × Json)} {name : String} {v w : Json} (same : inside name v w) :
      Rewrite owned optional inside ((name, v) :: ms) ((name, w) :: ms)

/-- Objects that come of each other by such steps, in either direction. -/
abbrev Rewritten (owned optional : List String) (inside : String → Json → Json → Prop) :
    List (String × Json) → List (String × Json) → Prop :=
  Relation.EqvGen (Rewrite owned optional inside)

/-! ## Parts -/

section parts

variable {σ : Type}

/-- Two parts that do not look at what the other has read. -/
structure Apart (p q : BodyPart σ) : Prop where
  keeps : ∀ d v d', p.take d v = .ok d' → q.isRead d' = q.isRead d
  kept : ∀ d v d', q.take d v = .ok d' → p.isRead d' = p.isRead d
  commutes : ∀ d v w d', (p.take d v).bind (q.take · w) = .ok d' ↔
    (q.take d w).bind (p.take · v) = .ok d'

/-- Two parts that are apart are so either way. -/
instance : Std.Symm (@Apart σ) where
  symm _ _ h := ⟨h.kept, h.keeps, fun d v w d' => (h.commutes d w v d').symm⟩

/-- A part made of a decoder sets what the decoder gives. -/
theorem of_take_eq_ok_iff {α : Type} {name : String} {get : σ → Option α} {set : σ → α → σ}
    {value : Json → Except Cause α} {d d' : σ} {v : Json} :
    (BodyPart.of name get set value).take d v = .ok d' ↔ ∃ x, value v = .ok x ∧ set d x = d' :=
  map_eq_ok_iff

/-- Two parts that neither see nor undo each other are apart. -/
theorem Apart.of {α β : Type} {name name' : String} {get : σ → Option α} {set : σ → α → σ}
    {value : Json → Except Cause α} {get' : σ → Option β} {set' : σ → β → σ}
    {value' : Json → Except Cause β} (keeps : ∀ d x, get' (set d x) = get' d)
    (kept : ∀ d y, get (set' d y) = get d)
    (commutes : ∀ d x y, set' (set d x) y = set (set' d y) x) :
    Apart (.of name get set value) (.of name' get' set' value') where
  keeps d v d' h := by
    obtain ⟨x, -, rfl⟩ := of_take_eq_ok_iff.1 h
    exact congrArg Option.isSome (keeps d x)
  kept d v d' h := by
    obtain ⟨y, -, rfl⟩ := of_take_eq_ok_iff.1 h
    exact congrArg Option.isSome (kept d y)
  commutes d v w d' := by
    show ((value v).map (set d)).bind (fun d => (value' w).map (set' d)) = .ok d' ↔
      ((value' w).map (set' d)).bind (fun d => (value v).map (set d)) = .ok d'
    cases value v <;> cases value' w <;> simp [Except.map, Except.bind, commutes]

/-- A part of a record that is finished by `finish`: it reads its member once, and a null in it
or a value put for another makes no difference to the record. -/
structure Sound {α : Type} (finish : σ → α) (optional : List String)
    (inside : String → Json → Json → Prop) (p : BodyPart σ) : Prop where
  marks : ∀ d v d', p.take d v = .ok d' → p.isRead d' = true
  nulls : p.name ∈ optional → ∀ d, p.isRead d = false →
    ∃ d', p.take d .null = .ok d' ∧ finish d' = finish d
  agrees : ∀ v w, inside p.name v w → ∀ d d', p.take d v = .ok d' ↔ p.take d w = .ok d'

/-- A part whose member may be null. -/
theorem Sound.of_optional {α β : Type} {finish : σ → α} {optional : List String}
    {inside : String → Json → Json → Prop} {name : String} {get : σ → Option (Option β)}
    {set : σ → Option β → σ} {value : Json → Except Cause β} (marks : ∀ d x, get (set d x) = some x)
    (nulls : ∀ d, get d = none → finish (set d none) = finish d)
    (agrees : ∀ v w, inside name v w → ∀ x,
      decodeOptional value v = .ok x ↔ decodeOptional value w = .ok x) :
    Sound finish optional inside (.of name get set (decodeOptional value)) where
  marks d v d' h := by
    obtain ⟨x, -, rfl⟩ := of_take_eq_ok_iff.1 h
    exact congrArg Option.isSome (marks d x)
  nulls _ d h := by
    have hnone : get d = none := Option.not_isSome_iff_eq_none.1 (Bool.eq_false_iff.1 h)
    exact ⟨set d none, of_take_eq_ok_iff.2 ⟨none, rfl, rfl⟩, nulls d hnone⟩
  agrees v w same d d' := by
    simp only [of_take_eq_ok_iff]
    exact exists_congr fun x => and_congr_left fun _ => agrees v w same x

/-- The parts of a record of which each looks at its own member only. -/
structure Plain {α : Type} (parts : List (BodyPart σ)) (finish : σ → α) (optional : List String)
    (inside : String → Json → Json → Prop) : Prop where
  apart : parts.Pairwise Apart
  sound : ∀ p ∈ parts, Sound finish optional inside p

/-- Three parts that are apart and sound make a plain reader. -/
theorem Plain.of_three {α : Type} {finish : σ → α} {optional : List String}
    {inside : String → Json → Json → Prop} {p q r : BodyPart σ} (hpq : Apart p q)
    (hpr : Apart p r) (hqr : Apart q r) (hp : Sound finish optional inside p)
    (hq : Sound finish optional inside q) (hr : Sound finish optional inside r) :
    Plain [p, q, r] finish optional inside :=
  ⟨by simp [hpq, hpr, hqr], by simp [hp, hq, hr]⟩

/-! ## Members -/

/-- One member of an object into the part it belongs to. -/
def takeMember (parts : List (BodyPart σ)) (d : σ) (m : String × Json) : Except Cause σ :=
  match parts.find? fun part => part.name = m.1 with
  | none => .ok d
  | some part => if part.isRead d then .error (.duplicateField m.1) else part.take d m.2

variable {parts : List (BodyPart σ)}

/-- Members are taken from the first on. -/
theorem takeMembers_cons (d : σ) (m : String × Json) (ms : List (String × Json)) :
    takeMembers parts d (m :: ms) = (takeMember parts d m).bind (takeMembers parts · ms) := by
  rw [takeMembers, takeMember]
  cases parts.find? fun part => part.name = m.1 with
  | none => rfl
  | some p =>
    cases hread : p.isRead d with
    | true => simp [hread, Except.bind]
    | false => cases htake : p.take d m.2 <;> simp [hread, htake, Except.bind]

/-- One member is taken alone. -/
theorem takeMembers_singleton (d : σ) (m : String × Json) :
    takeMembers parts d [m] = takeMember parts d m := by
  rw [takeMembers_cons]
  cases takeMember parts d m <;> rfl

/-- Members are taken one part after another. -/
theorem takeMembers_append (d : σ) (ms ms' : List (String × Json)) :
    takeMembers parts d (ms ++ ms') =
      (takeMembers parts d ms).bind (takeMembers parts · ms') := by
  induction ms generalizing d with
  | nil => rfl
  | cons m ms ih =>
    rw [List.cons_append, takeMembers_cons, takeMembers_cons]
    cases takeMember parts d m with
    | error => rfl
    | ok d' => exact ih d'

/-- A member is ignored or goes to the part of its name, which has to be unread. -/
theorem takeMember_eq_ok_iff {d d' : σ} {m : String × Json} :
    takeMember parts d m = .ok d' ↔
      (parts.find? (fun part => part.name = m.1) = none ∧ d = d') ∨
      ∃ p, parts.find? (fun part => part.name = m.1) = some p ∧ p.isRead d = false ∧
        p.take d m.2 = .ok d' := by
  unfold takeMember
  cases hfind : parts.find? fun part => part.name = m.1 with
  | none => simp
  | some p => cases hread : p.isRead d <;> simp [hread]

/-- A part that is found is one of the parts and has the name. -/
theorem of_find?_eq_some {m : String × Json} {p : BodyPart σ}
    (h : parts.find? (fun part => part.name = m.1) = some p) : p ∈ parts ∧ p.name = m.1 :=
  ⟨List.mem_of_find?_eq_some h, by simpa using List.find?_some h⟩

section plain

variable {α : Type} {finish : σ → α} {optional : List String}
  {inside : String → Json → Json → Prop}

/-- Parts of different names are apart. -/
theorem Plain.apart_of_ne (h : Plain parts finish optional inside) {p q : BodyPart σ}
    (hp : p ∈ parts) (hq : q ∈ parts) (hne : p.name ≠ q.name) : Apart p q :=
  h.apart.forall hp hq fun heq => hne (congrArg BodyPart.name heq)

/-- Two members may change places. -/
theorem Plain.takeMember_swap (h : Plain parts finish optional inside) {d d₁ d₂ : σ}
    {m m' : String × Json} (first : takeMember parts d m = .ok d₁)
    (second : takeMember parts d₁ m' = .ok d₂) :
    ∃ d', takeMember parts d m' = .ok d' ∧ takeMember parts d' m = .ok d₂ := by
  simp only [takeMember_eq_ok_iff] at first second ⊢
  rcases first with ⟨hnone, rfl⟩ | ⟨p, hp, hunread, htake⟩
  · exact ⟨d₂, second, .inl ⟨hnone, rfl⟩⟩
  · rcases second with ⟨hnone, rfl⟩ | ⟨q, hq, hunread', htake'⟩
    · exact ⟨d, .inl ⟨hnone, rfl⟩, .inr ⟨p, hp, hunread, htake⟩⟩
    · obtain ⟨hpmem, hpname⟩ := of_find?_eq_some hp
      obtain ⟨hqmem, hqname⟩ := of_find?_eq_some hq
      -- two members of one name would both go to a part that is read by then
      have hne : p.name ≠ q.name := by
        intro heq
        rw [hpname, hqname] at heq
        rw [heq, hq] at hp
        obtain rfl := Option.some.inj hp
        rw [(h.sound q hqmem).marks _ _ _ htake] at hunread'
        cases hunread'
      have hapart := h.apart_of_ne hpmem hqmem hne
      have hboth : (p.take d m.2).bind (q.take · m'.2) = .ok d₂ := by
        rw [htake]
        exact htake'
      obtain ⟨d', htake₁, htake₂⟩ := bind_eq_ok ((hapart.commutes _ _ _ _).1 hboth)
      refine ⟨d', .inr ⟨q, hq, ?_, htake₁⟩, .inr ⟨p, hp, ?_, htake₂⟩⟩
      · rw [← hapart.keeps _ _ _ htake, hunread']
      · rw [hapart.kept _ _ _ htake₁, hunread]

/-- The order of members makes no difference to a plain reader. -/
theorem Plain.takeMembers_perm (h : Plain parts finish optional inside)
    {ms ms' : List (String × Json)} (perm : ms.Perm ms') {d d' : σ}
    (taken : takeMembers parts d ms = .ok d') : takeMembers parts d ms' = .ok d' := by
  induction perm generalizing d with
  | nil => exact taken
  | cons m _ ih =>
    rw [takeMembers_cons] at taken ⊢
    obtain ⟨d₁, hfirst, hrest⟩ := bind_eq_ok taken
    rw [hfirst]
    exact ih hrest
  | swap m m' ms =>
    rw [takeMembers_cons] at taken
    obtain ⟨d₁, hfirst, hrest⟩ := bind_eq_ok taken
    rw [takeMembers_cons] at hrest
    obtain ⟨d₂, hsecond, hrest⟩ := bind_eq_ok hrest
    obtain ⟨d₁', hfirst', hsecond'⟩ := h.takeMember_swap hfirst hsecond
    rw [takeMembers_cons, hfirst']
    show takeMembers parts d₁' (m' :: ms) = _
    rw [takeMembers_cons, hsecond']
    exact hrest
  | trans _ _ ih ih' => exact ih' (ih taken)

/-- A member that is missing leaves its part unread. -/
theorem Plain.isRead_eq (h : Plain parts finish optional inside) {ms : List (String × Json)}
    {d d' : σ} (taken : takeMembers parts d ms = .ok d') {p : BodyPart σ} (hp : p ∈ parts)
    (absent : ∀ m ∈ ms, m.1 ≠ p.name) : p.isRead d' = p.isRead d := by
  induction ms generalizing d with
  | nil =>
    cases taken
    rfl
  | cons m ms ih =>
    obtain ⟨hm, hrest⟩ := List.forall_mem_cons.1 absent
    rw [takeMembers_cons] at taken
    obtain ⟨d₁, hfirst, htaken⟩ := bind_eq_ok taken
    rw [ih htaken hrest]
    rcases takeMember_eq_ok_iff.1 hfirst with ⟨-, rfl⟩ | ⟨q, hq, -, htake⟩
    · rfl
    · obtain ⟨hqmem, hqname⟩ := of_find?_eq_some hq
      have hne : q.name ≠ p.name := by
        rw [hqname]
        exact hm
      exact (h.apart_of_ne hqmem hp hne).keeps _ _ _ htake

/-- A member that no part is named for is passed over. -/
theorem takeMember_of_absent {name : String} {v : Json} (absent : ∀ p ∈ parts, p.name ≠ name)
    (d : σ) : takeMember parts d (name, v) = .ok d := by
  have hnone : parts.find? (fun part => part.name = name) = none := by
    simpa using absent
  simp [takeMember, hnone]

/-- A null among other members changes nothing that is seen of the finished record. -/
theorem Plain.takeMembers_null (h : Plain parts finish optional inside) {d : σ}
    (fresh : ∀ p ∈ parts, p.isRead d = false) {ms : List (String × Json)} {name : String}
    (may : name ∈ optional) (absent : ∀ m ∈ ms, m.1 ≠ name) {d₁ : σ}
    (taken : takeMembers parts d ms = .ok d₁) :
    ∃ d₂, takeMember parts d₁ (name, .null) = .ok d₂ ∧ finish d₂ = finish d₁ := by
  cases hfind : parts.find? fun part => part.name = name with
  | none => exact ⟨d₁, by simp [takeMember, hfind], rfl⟩
  | some p =>
    obtain ⟨hp, rfl⟩ := of_find?_eq_some (m := (name, .null)) hfind
    have hunread : p.isRead d₁ = false := by
      rw [h.isRead_eq taken hp absent, fresh p hp]
    obtain ⟨d₂, htake, hfinish⟩ := (h.sound p hp).nulls may d₁ hunread
    exact ⟨d₂, by simp [takeMember, hfind, hunread, htake], hfinish⟩

/-- A member may be replaced by one that is the same inside. -/
theorem Plain.takeMember_within (h : Plain parts finish optional inside) {name : String}
    {v w : Json} (same : inside name v w) (d d' : σ) :
    takeMember parts d (name, v) = .ok d' ↔ takeMember parts d (name, w) = .ok d' := by
  simp only [takeMember_eq_ok_iff]
  refine or_congr_right (exists_congr fun p => and_congr_right fun hp => and_congr_right fun _ => ?_)
  obtain ⟨hmem, rfl⟩ := of_find?_eq_some (m := (name, v)) hp
  exact (h.sound p hmem).agrees v w same d d'

/-- An object that is written otherwise comes to the same record. -/
theorem Plain.takeMembers_rewrite (h : Plain parts finish optional inside) {owned : List String}
    (all : ∀ p ∈ parts, p.name ∈ owned) {d : σ} (fresh : ∀ p ∈ parts, p.isRead d = false)
    {ms ms' : List (String × Json)} (rewrite : Rewrite owned optional inside ms ms') (x : α) :
    (∃ d', takeMembers parts d ms = .ok d' ∧ finish d' = x) ↔
      ∃ d', takeMembers parts d ms' = .ok d' ∧ finish d' = x := by
  cases rewrite with
  | reordered perm =>
    exact exists_congr fun d' => and_congr_left fun _ =>
      ⟨h.takeMembers_perm perm, h.takeMembers_perm perm.symm⟩
  | @foreign _ name _ foreign =>
    have habsent : ∀ p ∈ parts, p.name ≠ name := by
      rintro p hp rfl
      exact foreign (all p hp)
    rw [takeMembers_cons, takeMember_of_absent habsent]
    rfl
  | @nulled _ name may absent =>
    have hlast : (ms ++ [(name, Json.null)]).Perm ((name, .null) :: ms) :=
      List.perm_append_singleton ..
    constructor
    · rintro ⟨d₁, htaken, rfl⟩
      obtain ⟨d₂, hnull, hfinish⟩ := h.takeMembers_null fresh may absent htaken
      refine ⟨d₂, h.takeMembers_perm hlast ?_, hfinish⟩
      rw [takeMembers_append, htaken]
      exact (takeMembers_singleton ..).trans hnull
    · rintro ⟨d₂, htaken, rfl⟩
      -- the null is looked at last, when everything else has been read
      have hlater := h.takeMembers_perm hlast.symm htaken
      rw [takeMembers_append] at hlater
      obtain ⟨d₁, htaken₁, hnull⟩ := bind_eq_ok hlater
      obtain ⟨d₂', hnull', hfinish⟩ := h.takeMembers_null fresh may absent htaken₁
      rw [takeMembers_singleton, hnull'] at hnull
      obtain rfl := Except.ok.inj hnull
      exact ⟨d₁, htaken₁, hfinish.symm⟩
  | within same =>
    simp only [takeMembers_cons, bind_eq_ok_iff, h.takeMember_within same]

/-- An object that is written otherwise in any number of steps comes to the same record. -/
theorem Plain.takeMembers_rewritten (h : Plain parts finish optional inside) {owned : List String}
    (all : ∀ p ∈ parts, p.name ∈ owned) {d : σ} (fresh : ∀ p ∈ parts, p.isRead d = false)
    {ms ms' : List (String × Json)} (rewritten : Rewritten owned optional inside ms ms') (x : α) :
    (takeMembers parts d ms).map finish = .ok x ↔ (takeMembers parts d ms').map finish = .ok x := by
  simp only [map_eq_ok_iff]
  induction rewritten with
  | rel _ _ step => exact h.takeMembers_rewrite all fresh step x
  | refl => rfl
  | symm _ _ _ ih => exact ih.symm
  | trans _ _ _ _ _ ih ih' => exact ih.trans ih'

end plain

end parts

end ChatGateway.Json
