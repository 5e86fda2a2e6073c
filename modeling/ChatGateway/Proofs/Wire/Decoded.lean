import Mathlib
import ChatGateway.Wire.ChunkReader
import ChatGateway.Proofs.Json.Rewriting

/-!
# What a decoded chunk holds

A chunk that was decoded from a text holds values that could be read again: they nest no
deeper than their place in a chunk allows, their members are distinct, they are not null
where null would mean that they are missing, and counts fit 64 bits.  Decoding keeps this
part by part, whether a record was written as an object or as a list.
-/

set_option autoImplicit false

namespace ChatGateway

namespace Json

/-! ## Records -/

/-- A value that was kept as it was read. -/
structure Kept (depth : Nat) (v : Json) : Prop where
  fits : Fits depth v
  distinct_eq : v.distinct = v
  ne_null : v ≠ .null

/-- Whether `P` holds of all values of a record. -/
def Body.Forall (P : Json → Prop) : Body → Prop
  | .members ms => ∀ m ∈ ms, P m.2
  | .items vs => ∀ v ∈ vs, P v

section take

variable {σ : Type} {Inv : σ → Prop} {P : Json → Prop} {parts : List (BodyPart σ)}

/-- What every part keeps, a whole object keeps. -/
theorem takeMembers_invariant
    (keeps : ∀ part ∈ parts, ∀ draft v draft', Inv draft → P v →
      part.take draft v = .ok draft' → Inv draft')
    {ms : List (String × Json)} (hms : ∀ m ∈ ms, P m.2) {draft draft' : σ} (hdraft : Inv draft)
    (h : takeMembers parts draft ms = .ok draft') : Inv draft' := by
  induction ms generalizing draft with
  | nil =>
    cases h
    exact hdraft
  | cons m ms ih =>
    obtain ⟨name, v⟩ := m
    obtain ⟨hv, hrest⟩ := List.forall_mem_cons.1 hms
    rw [takeMembers] at h
    split at h
    · exact ih hrest hdraft h
    · rename_i part hpart
      split at h
      · cases h
      · split at h
        · cases h
        · rename_i hstep
          exact ih hrest (keeps part (List.mem_of_find?_eq_some hpart) _ _ _ hdraft hv hstep) h

/-- What every part keeps, a whole list keeps. -/
theorem takeItems_invariant
    (keeps : ∀ part ∈ parts, ∀ draft v draft', Inv draft → P v →
      part.take draft v = .ok draft' → Inv draft')
    {short : Option String} {index : Nat} {vs : List Json} (hvs : ∀ v ∈ vs, P v)
    {draft draft' : σ} (hdraft : Inv draft)
    (h : takeItems short index draft parts vs = .ok draft') : Inv draft' := by
  induction parts generalizing index vs draft with
  | nil =>
    cases vs with
    | nil =>
      cases h
      exact hdraft
    | cons v vs => cases h
  | cons part parts ih =>
    cases vs with
    | nil =>
      cases short with
      | none =>
        cases h
        exact hdraft
      | some expected => cases h
    | cons v vs =>
      obtain ⟨hv, hrest⟩ := List.forall_mem_cons.1 hvs
      rw [takeItems] at h
      split at h
      · cases h
      · rename_i hstep
        exact ih (fun part' hpart => keeps part' (List.mem_cons_of_mem part hpart)) hrest
          (keeps part List.mem_cons_self _ _ _ hdraft hv hstep) h

/-- What every part keeps holds of a record after all its values have been decoded. -/
theorem Body.take_invariant
    (keeps : ∀ part ∈ parts, ∀ draft v draft', Inv draft → P v →
      part.take draft v = .ok draft' → Inv draft')
    {short : Option String} {body : Body} (hbody : body.Forall P) {draft draft' : σ}
    (hdraft : Inv draft) (h : body.take short parts draft = .ok draft') : Inv draft' := by
  cases body with
  | members ms => exact takeMembers_invariant keeps hbody hdraft h
  | items vs => exact takeItems_invariant keeps hbody hdraft h

end take

/-! ## Decoders -/

/-- An optional value that is there was decoded from something else than `null`. -/
theorem of_decodeOptional_eq_some {α : Type} {value : Json → Except Cause α} {v : Json}
    {x : α} (h : decodeOptional value v = .ok (some x)) : v ≠ .null ∧ value v = .ok x := by
  unfold decodeOptional at h
  split at h
  · cases h
  · rename_i hne
    obtain ⟨y, hy, hsome⟩ := map_eq_ok h
    obtain rfl := Option.some.inj hsome
    exact ⟨hne, hy⟩

/-- A record's values fit one level less than the record. -/
theorem decodeRecord_invariant {σ : Type} {Inv : σ → Prop} {depth : Nat}
    {parts : List (BodyPart σ)}
    (keeps : ∀ part ∈ parts, ∀ draft v draft', Inv draft → Fits depth v →
      part.take draft v = .ok draft' → Inv draft')
    {expected : String} {short : Option String} {v : Json} (hv : Fits (depth + 1) v)
    {draft draft' : σ} (hdraft : Inv draft)
    (h : decodeRecord expected short parts draft v = .ok draft') : Inv draft' := by
  cases hv with
  | @obj _ ms hms =>
    exact @Body.take_invariant σ Inv _ parts keeps short (.members ms) hms _ _ hdraft h
  | @arr _ vs hvs =>
    exact @Body.take_invariant σ Inv _ parts keeps short (.items vs) hvs _ _ hdraft h
  | _ => cases h

/-- What holds of every item that is decoded holds of a list of them. -/
theorem decodeList_forall {α : Type} {value : Json → Except Cause α} {P : α → Prop}
    {depth : Nat} (hvalue : ∀ v x, Fits depth v → value v = .ok x → P x) {v : Json}
    (hv : Fits (depth + 1) v) {xs : List α} (h : decodeList value v = .ok xs) :
    ∀ x ∈ xs, P x := by
  cases hv with
  | @arr _ items hitems =>
    rw [decodeList] at h
    induction items generalizing xs with
    | nil =>
      cases h
      simp
    | cons item items ih =>
      obtain ⟨hitem, hrest⟩ := List.forall_mem_cons.1 hitems
      rw [List.mapM_cons] at h
      cases hx : value item with
      | error cause => rw [hx] at h; cases h
      | ok x =>
        cases hxs : items.mapM value with
        | error cause => rw [hx, hxs] at h; cases h
        | ok ys =>
          rw [hx, hxs] at h
          cases h
          exact List.forall_mem_cons.2 ⟨hvalue item x hitem hx, ih hrest hxs⟩
  | _ => cases h

/-- Any value that fits is kept as it is. -/
theorem decodeAny_kept {depth : Nat} {v w : Json} (hv : Fits depth v) (hne : v ≠ .null)
    (h : decodeAny v = .ok w) : Kept depth w := by
  obtain rfl : v.distinct = w := Except.ok.inj h
  exact ⟨hv.distinct, distinct_distinct hv, fun e => hne ((distinct_eq_null_iff v).1 e)⟩

/-- A word that was decoded is in range. -/
theorem decodeWord_le {depth : Nat} {v : Json} (hv : Fits depth v) {k : Nat}
    (h : decodeWord v = .ok k) : k ≤ wordMax := by
  unfold decodeWord at h
  split at h
  · split at h
    · cases h
      cases hv with
      | number fits => exact Int.ofNat_le.1 fits.2
    · cases h
  · cases h

end Json

open ChatGateway.Json

/-! ## Chunks -/

/-- What a decoded tool call holds when its values fit `depth`. -/
def ToolCall.Kept (depth : Nat) (call : ToolCall) : Prop :=
  ∀ v, call.arguments = some v → Json.Kept depth v

/-- Whether the counts fit 64 bits. -/
def Usage.Fits (u : Usage) : Prop :=
  ∀ n, u.promptTokens = some n ∨ u.completionTokens = some n ∨ u.totalTokens = some n →
    n ≤ wordMax

/-- What a decoded chunk holds when the values of its members fit `depth + 2`: the members
of a call lie two levels below the list of calls. -/
def Chunk.Kept (depth : Nat) : Chunk → Prop
  | .toolCall calls _ => ∀ cs, calls = some cs → ∀ call ∈ cs, call.Kept depth
  | .toolResult result => ∀ v, result = some v → Json.Kept (depth + 2) v
  | .done _ usage _ => ∀ u, usage = some u → u.Fits
  | _ => True

namespace Chunk

/-- A tool call that was decoded can be kept. -/
theorem decodeCall_kept {depth : Nat} {v : Json} (hv : Fits (depth + 1) v) {call : ToolCall}
    (h : decodeCall v = .ok call) : call.Kept depth := by
  obtain ⟨d, hd, rfl⟩ := map_eq_ok h
  have hinv : ∀ w, d.arguments = some (some w) → Json.Kept depth w := by
    refine @decodeRecord_invariant CallDraft (fun d => ∀ w, d.arguments = some (some w) →
      Json.Kept depth w) depth callParts ?_ _ _ _ hv _ _ (by simp) hd
    intro part hpart draft v draft' hdraft hfits htake
    simp only [callParts, List.mem_cons, List.not_mem_nil, or_false] at hpart
    rcases hpart with rfl | rfl | rfl
    · obtain ⟨x, -, rfl⟩ := of_take_eq_ok_iff.1 htake
      exact hdraft
    · obtain ⟨x, -, rfl⟩ := of_take_eq_ok_iff.1 htake
      exact hdraft
    · obtain ⟨x, hx, rfl⟩ := of_take_eq_ok_iff.1 htake
      rintro w ⟨⟩
      obtain ⟨hne, hw⟩ := of_decodeOptional_eq_some hx
      exact decodeAny_kept hfits hne hw
  intro w hw
  exact hinv w (Option.join_eq_some_iff.1 hw)

/-- A count that was decoded is in range. -/
theorem decodeOptional_decodeWord_le {depth : Nat} {v : Json} (hv : Fits depth v)
    {r : Option Nat} (h : decodeOptional decodeWord v = .ok r) : ∀ n, r = some n → n ≤ wordMax := by
  rintro n rfl
  exact decodeWord_le hv (of_decodeOptional_eq_some h).2

/-- A usage that was decoded has counts that fit. -/
theorem decodeUsage_fits {depth : Nat} {v : Json} (hv : Fits (depth + 1) v) {u : Usage}
    (h : decodeUsage v = .ok u) : u.Fits := by
  obtain ⟨d, hd, rfl⟩ := map_eq_ok h
  have hinv : ∀ n, d.prompt = some (some n) ∨ d.completion = some (some n) ∨
      d.total = some (some n) → n ≤ wordMax := by
    refine @decodeRecord_invariant UsageDraft (fun d => ∀ n, d.prompt = some (some n) ∨
      d.completion = some (some n) ∨ d.total = some (some n) → n ≤ wordMax) depth usageParts ?_
      _ _ _ hv _ _ (by simp) hd
    intro part hpart draft v draft' hdraft hfits htake
    simp only [usageParts, List.mem_cons, List.not_mem_nil, or_false] at hpart
    rcases hpart with rfl | rfl | rfl
    · obtain ⟨x, hx, rfl⟩ := of_take_eq_ok_iff.1 htake
      rintro n (hn | hn)
      · exact decodeOptional_decodeWord_le hfits hx n (Option.some.inj hn)
      · exact hdraft n (.inr hn)
    · obtain ⟨x, hx, rfl⟩ := of_take_eq_ok_iff.1 htake
      rintro n (hn | hn | hn)
      · exact hdraft n (.inl hn)
      · exact decodeOptional_decodeWord_le hfits hx n (Option.some.inj hn)
      · exact hdraft n (.inr (.inr hn))
    · obtain ⟨x, hx, rfl⟩ := of_take_eq_ok_iff.1 htake
      rintro n (hn | hn | hn)
      · exact hdraft n (.inl hn)
      · exact hdraft n (.inr (.inl hn))
      · exact decodeOptional_decodeWord_le hfits hx n (Option.some.inj hn)
  intro n hn
  simp only [Option.join_eq_some_iff] at hn
  exact hinv n hn

/-- What holds of the parts of a chunk while they are decoded. -/
structure Draft.Kept (depth : Nat) (d : Draft) : Prop where
  calls : ∀ cs, d.calls = some (some cs) → ∀ call ∈ cs, call.Kept depth
  result : ∀ v, d.result = some (some v) → Json.Kept (depth + 2) v
  usage : ∀ u, d.usage = some (some u) → u.Fits

/-- Every member of a chunk keeps what holds of the others. -/
theorem parts_kept {depth : Nat} {kind : Kind} :
    ∀ part ∈ kind.parts, ∀ draft v draft', Draft.Kept depth draft → Json.Fits (depth + 2) v →
      part.take draft v = .ok draft' → Draft.Kept depth draft' := by
  intro part hpart draft v draft' hdraft hfits htake
  cases kind with
  | delta =>
    obtain rfl := List.mem_singleton.1 hpart
    obtain ⟨x, -, rfl⟩ := of_take_eq_ok_iff.1 htake
    exact ⟨hdraft.calls, hdraft.result, hdraft.usage⟩
  | toolCall =>
    simp only [Kind.parts, List.mem_cons, List.not_mem_nil, or_false] at hpart
    rcases hpart with rfl | rfl
    · obtain ⟨x, hx, rfl⟩ := of_take_eq_ok_iff.1 htake
      refine ⟨?_, hdraft.result, hdraft.usage⟩
      rintro cs ⟨⟩
      obtain ⟨-, hcs⟩ := of_decodeOptional_eq_some hx
      exact decodeList_forall (fun v call hv => decodeCall_kept hv) hfits hcs
    · obtain ⟨x, -, rfl⟩ := of_take_eq_ok_iff.1 htake
      exact ⟨hdraft.calls, hdraft.result, hdraft.usage⟩
  | toolResult =>
    obtain rfl := List.mem_singleton.1 hpart
    obtain ⟨x, hx, rfl⟩ := of_take_eq_ok_iff.1 htake
    refine ⟨hdraft.calls, ?_, hdraft.usage⟩
    rintro w ⟨⟩
    obtain ⟨hne, hw⟩ := of_decodeOptional_eq_some hx
    exact decodeAny_kept hfits hne hw
  | done =>
    simp only [Kind.parts, List.mem_cons, List.not_mem_nil, or_false] at hpart
    rcases hpart with rfl | rfl | rfl
    · obtain ⟨x, -, rfl⟩ := of_take_eq_ok_iff.1 htake
      exact ⟨hdraft.calls, hdraft.result, hdraft.usage⟩
    · obtain ⟨x, hx, rfl⟩ := of_take_eq_ok_iff.1 htake
      refine ⟨hdraft.calls, hdraft.result, ?_⟩
      rintro u ⟨⟩
      exact decodeUsage_fits hfits (of_decodeOptional_eq_some hx).2
    · obtain ⟨x, -, rfl⟩ := of_take_eq_ok_iff.1 htake
      exact ⟨hdraft.calls, hdraft.result, hdraft.usage⟩
  | error =>
    obtain rfl := List.mem_singleton.1 hpart
    obtain ⟨x, -, rfl⟩ := of_take_eq_ok_iff.1 htake
    exact ⟨hdraft.calls, hdraft.result, hdraft.usage⟩

/-- A chunk that was built from values that fit can be kept. -/
theorem ofBody_kept {depth : Nat} {kind : Kind} {body : Body}
    (hbody : body.Forall (Json.Fits (depth + 2))) {c : Chunk} (h : ofBody kind body = .ok c) :
    c.Kept depth := by
  obtain ⟨d, hd, rfl⟩ := map_eq_ok h
  have hinv : Draft.Kept depth d :=
    Body.take_invariant parts_kept hbody ⟨by simp, by simp, by simp⟩ hd
  cases kind with
  | delta => trivial
  | toolCall => exact fun cs hcs => hinv.calls cs (Option.join_eq_some_iff.1 hcs)
  | toolResult => exact fun v hv => hinv.result v (Option.join_eq_some_iff.1 hv)
  | done => exact fun u hu => hinv.usage u (Option.join_eq_some_iff.1 hu)
  | error => trivial

/-! ## Texts -/

/-- What is read of a tagged object fits one level below the top. -/
theorem readTagged_forall {fuel : Nat} {first : Bool} {kind : Option Kind}
    {others : List (String × Json)} {cs rest : List Char} {content : Kind × Body}
    (hothers : ∀ m ∈ others, Json.Fits (maxDepth - 1) m.2)
    (h : readTagged fuel first kind others cs = .ok (content, rest)) :
    content.2.Forall (Json.Fits (maxDepth - 1)) := by
  induction fuel generalizing first kind others cs with
  | zero => cases h
  | succ fuel ih =>
    rw [readTagged] at h
    split at h
    · cases h
    · split at h
      · cases h
      · cases h
        intro m hm
        exact hothers m (List.mem_reverse.1 hm)
    · split at h
      · cases h
      · split at h
        · split at h
          · cases h
          · split at h
            · cases h
            · exact ih hothers h
        · split at h
          · cases h
          · rename_i hvalue
            refine ih (List.forall_mem_cons.2 ⟨?_, hothers⟩) h
            obtain ⟨more, -, hread⟩ := bind_eq_ok hvalue
            exact readValue_fits hread

/-- What is read of a chunk fits one level below the top. -/
theorem readContent_forall {cs rest : List Char} {content : Kind × Body}
    (h : readContent cs = .ok (content, rest)) :
    content.2.Forall (Json.Fits (maxDepth - 1)) := by
  unfold readContent at h
  split at h
  · have hlist := mapError_eq_ok h
    unfold readTaggedList at hlist
    split at hlist
    · cases hlist
    · cases hlist
    · split at hlist
      · cases hlist
      · obtain ⟨x, hx, hcontent⟩ := map_eq_ok hlist
        cases hcontent
        exact readItems_forall (fun _ _ _ => readValue_fits) (by simp) hx
  · exact readTagged_forall (by simp) (mapError_eq_ok h)
  · split at h <;> cases h

/-- A chunk that a text denotes holds values that could be read again. -/
theorem kept_of_ofText {text : String} {c : Chunk} (h : ofText text = .ok c) :
    c.Kept (maxDepth - 3) := by
  unfold ofText ofChars at h
  split at h
  · cases h
  · rename_i kind body rest hcontent
    split at h
    · cases h
    · rename_i chunk hbody
      have hkept : chunk.Kept (maxDepth - 3) := ofBody_kept (readContent_forall hcontent) hbody
      split at h
      · cases h
        exact hkept
      · cases h

end Chunk

end ChatGateway
