import Mathlib
import ChatGateway.Proofs.Json.Objects
import ChatGateway.Proofs.Wire.ChunkRoundTrip

/-!
# Chunks and the kinds that they name

A chunk is what the member `type` of its object says, wherever that member stands.  The texts of
objects that are chunks are those that are read as JSON and whose members denote a chunk
(`ofText_eq_ok_iff`), so the rest is about members: nothing else than the member `type` selects the
kind, and the kind looks at its own members only.
-/

set_option autoImplicit false

namespace ChatGateway.Chunk

open ChatGateway.Json

/-! ## Members that say the same -/

/-- The members of a tool call; each may be null. -/
def callNames : List String :=
  ["id", "name", "arguments"]

/-- The members of what a reply has cost; each may be null. -/
def usageNames : List String :=
  ["prompt_tokens", "completion_tokens", "total_tokens"]

/-- Members in which nothing is put for another. -/
abbrev Strict : String → Json → Json → Prop :=
  fun _ _ _ => False

/-- A value that is left, or an object whose members are written otherwise. -/
inductive Same (names : List String) : Json → Json → Prop
  | refl (v : Json) : Same names v v
  | obj {ms ms' : List (String × Json)} (rewritten : Rewritten names names Strict ms ms') :
      Same names (.obj ms) (.obj ms')

/-- The members that a kind looks at. -/
def Kind.owned : Kind → List String
  | .delta => ["type", "delta"]
  | .toolCall => ["type", "tool_calls", "tool_name"]
  | .toolResult => ["type", "tool_result"]
  | .done => ["type", "finish_reason", "usage", "thread_id"]
  | .error => ["type", "error"]

/-- Those of them that may be missing or null. -/
def Kind.optional : Kind → List String
  | .delta => []
  | .toolCall => ["tool_calls", "tool_name"]
  | .toolResult => ["tool_result"]
  | .done => ["finish_reason", "usage", "thread_id"]
  | .error => ["error"]

/-- The values of a member that say the same to a kind. -/
inductive Inside : Kind → String → Json → Json → Prop
  | calls {vs ws : List Json} (same : List.Forall₂ (Same callNames) vs ws) :
      Inside .toolCall "tool_calls" (.arr vs) (.arr ws)
  | usage {v w : Json} (same : Same usageNames v w) : Inside .done "usage" v w

/-- Within a tool call only the list of calls may be written otherwise. -/
theorem Inside.eq_calls {name : String} {v w : Json} (h : Inside .toolCall name v w) :
    name = "tool_calls" := by
  cases h
  rfl

/-- Within the end of a reply only the usage may be written otherwise. -/
theorem Inside.eq_usage {name : String} {v w : Json} (h : Inside .done name v w) :
    name = "usage" := by
  cases h
  rfl

/-- Two objects that say the same decode to the same, when every part has a name of its own. -/
theorem Same.decode_iff {σ α : Type} {parts : List (BodyPart σ)} {finish : σ → α}
    {names : List String} {value : Json → Except Cause α} {start : σ}
    (plain : Plain parts finish names Strict) (all : ∀ p ∈ parts, p.name ∈ names)
    (fresh : ∀ p ∈ parts, p.isRead start = false)
    (object : ∀ ms, value (.obj ms) = (takeMembers parts start ms).map finish) {v w : Json}
    (same : Same names v w) (x : α) : value v = .ok x ↔ value w = .ok x := by
  cases same with
  | refl => rfl
  | obj rewritten =>
    rw [object, object]
    exact plain.takeMembers_rewritten all fresh rewritten x

/-- Two calls that say the same decode to the same. -/
theorem decodeCall_same {v w : Json} (same : Same callNames v w) (call : ToolCall) :
    decodeCall v = .ok call ↔ decodeCall w = .ok call := by
  refine same.decode_iff (.of_three ?_ ?_ ?_ ?_ ?_ ?_) ?_ ?_ (fun _ => rfl) call
  iterate 3 exact .of (fun _ _ => rfl) (fun _ _ => rfl) fun _ _ _ => rfl
  iterate 3 exact .of_optional (fun _ _ => rfl) (fun d hd => by simp [hd]) fun _ _ => False.elim
  · simp [callNames, BodyPart.of]
  · simp [BodyPart.of]

/-- Two usages that say the same decode to the same. -/
theorem decodeUsage_same {v w : Json} (same : Same usageNames v w) (u : Usage) :
    decodeUsage v = .ok u ↔ decodeUsage w = .ok u := by
  refine same.decode_iff (.of_three ?_ ?_ ?_ ?_ ?_ ?_) ?_ ?_ (fun _ => rfl) u
  iterate 3 exact .of (fun _ _ => rfl) (fun _ _ => rfl) fun _ _ _ => rfl
  iterate 3 exact .of_optional (fun _ _ => rfl) (fun d hd => by simp [hd]) fun _ _ => False.elim
  · simp [usageNames, BodyPart.of]
  · simp [BodyPart.of]

/-- A list is decoded item by item. -/
theorem mapM_cons_eq_ok_iff {α : Type} {value : Json → Except Cause α} {v : Json} {vs : List Json}
    {xs : List α} :
    (v :: vs).mapM value = .ok xs ↔
      ∃ y, value v = .ok y ∧ ∃ ys, vs.mapM value = .ok ys ∧ y :: ys = xs := by
  rw [List.mapM_cons]
  cases value v <;> cases vs.mapM value <;> simp [bind, Except.bind, pure, Except.pure]

/-- Two lists that say the same item by item decode to the same. -/
theorem decodeList_same {α : Type} {value : Json → Except Cause α} {vs ws : List Json}
    (same : List.Forall₂ (fun v w => ∀ x, value v = .ok x ↔ value w = .ok x) vs ws) (xs : List α) :
    decodeList value (.arr vs) = .ok xs ↔ decodeList value (.arr ws) = .ok xs := by
  unfold decodeList
  induction same generalizing xs with
  | nil => rfl
  | cons hsame _ ih => simp only [mapM_cons_eq_ok_iff, hsame, ih]

/-- Two values that are not null and decode to the same do so where they may be missing. -/
theorem decodeOptional_same {α : Type} {value : Json → Except Cause α} {v w : Json}
    (same : ∀ x, value v = .ok x ↔ value w = .ok x) (hv : v ≠ .null) (hw : w ≠ .null)
    (x : Option α) : decodeOptional value v = .ok x ↔ decodeOptional value w = .ok x := by
  have hmap : ∀ u : Json, u ≠ .null → decodeOptional value u = (value u).map some := by
    intro u hu
    cases u with
    | null => exact absurd rfl hu
    | _ => rfl
  simp only [hmap v hv, hmap w hw, map_eq_ok_iff, same]

/-- A kind looks at its own members only. -/
theorem Kind.parts_plain (k : Kind) : Plain k.parts k.build k.optional (Inside k) := by
  cases k with
  | delta =>
    refine ⟨List.pairwise_singleton .., List.forall_mem_singleton.2 ⟨?_, ?_, ?_⟩⟩
    · intro d v d' htake
      obtain ⟨x, -, rfl⟩ := of_take_eq_ok_iff.1 htake
      rfl
    · intro hmay
      cases hmay
    · intro v w hinside
      cases hinside
  | toolCall =>
    constructor
    · refine .cons (List.forall_mem_singleton.2 ?_) (List.pairwise_singleton ..)
      exact .of (fun _ _ => rfl) (fun _ _ => rfl) fun _ _ _ => rfl
    · refine List.forall_mem_cons.2 ⟨?_, List.forall_mem_singleton.2 ?_⟩
      · refine .of_optional (fun _ _ => rfl) (fun d hd => by simp [build, hd]) ?_
        intro v w hinside x
        cases hinside with
        | calls hsame =>
          exact decodeOptional_same (decodeList_same (hsame.imp fun _ _ => decodeCall_same))
            (by simp) (by simp) x
      · refine .of_optional (fun _ _ => rfl) (fun d hd => by simp [build, hd]) ?_
        intro v w hinside
        exact absurd hinside.eq_calls (by decide)
  | toolResult =>
    refine ⟨List.pairwise_singleton .., List.forall_mem_singleton.2 ?_⟩
    refine .of_optional (fun _ _ => rfl) (fun d hd => by simp [build, hd]) ?_
    intro v w hinside
    cases hinside
  | done =>
    refine .of_three ?_ ?_ ?_ (.of_optional (fun _ _ => rfl) (fun d hd => by simp [build, hd]) ?_)
      (.of_optional (fun _ _ => rfl) (fun d hd => by simp [build, hd]) ?_)
      (.of_optional (fun _ _ => rfl) (fun d hd => by simp [build, hd]) ?_)
    iterate 3 exact .of (fun _ _ => rfl) (fun _ _ => rfl) fun _ _ _ => rfl
    · intro v w hinside
      exact absurd hinside.eq_usage (by decide)
    · intro v w hinside x
      cases hinside with
      | usage hsame =>
        cases hsame with
        | refl => rfl
        | obj rewritten =>
          exact decodeOptional_same (decodeUsage_same (.obj rewritten)) (by simp) (by simp) x
    · intro v w hinside
      exact absurd hinside.eq_usage (by decide)
  | error =>
    refine ⟨List.pairwise_singleton .., List.forall_mem_singleton.2 ?_⟩
    refine .of_optional (fun _ _ => rfl) (fun d hd => by simp [build, hd]) ?_
    intro v w hinside
    cases hinside

/-! ## The member that selects the kind -/

/-- A chunk has the kind that it was built for. -/
theorem kind_build (k : Kind) (d : Draft) : (k.build d).kind = k := by
  cases k <;> rfl

/-- Only the name of a kind reads as that kind. -/
theorem Kind.ofName_eq_ok_iff {name : String} {k : Kind} :
    Kind.ofName name = .ok k ↔ name = k.name := by
  constructor
  · unfold Kind.ofName
    intro h
    split_ifs at h with h₁ h₂ h₃ h₄ h₅
    all_goals
      cases h
      assumption
  · rintro rfl
    exact ofName_name k

/-- The members that select a kind. -/
def tags (ms : List (String × Json)) : List (String × Json) :=
  ms.filter fun m => m.1 = "type"

/-- The other members. -/
def untagged (ms : List (String × Json)) : List (String × Json) :=
  ms.filter fun m => m.1 ≠ "type"

/-- The members that select a kind have its name. -/
theorem eq_type_of_mem_tags {ms : List (String × Json)} {m : String × Json} (h : m ∈ tags ms) :
    m.1 = "type" := by
  simpa using (List.mem_filter.1 h).2

/-- What the members of an object denote, kind by kind. -/
theorem ofMembers_eq_ok_iff {ms : List (String × Json)} {c : Chunk} :
    ofMembers ms = .ok c ↔ tags ms = [("type", .str c.kind.name)] ∧
      (takeMembers c.kind.parts {} (untagged ms)).map c.kind.build = .ok c := by
  unfold ofMembers
  constructor
  · intro h
    split at h
    · cases h
    · rename_i key name htags
      obtain ⟨k, hk, hbody⟩ := bind_eq_ok h
      obtain ⟨d, -, rfl⟩ := map_eq_ok hbody
      obtain rfl := Kind.ofName_eq_ok_iff.1 hk
      have hmem : (key, Json.str k.name) ∈ tags ms := by simp [tags, htags]
      obtain rfl : key = "type" := eq_type_of_mem_tags hmem
      rw [kind_build]
      exact ⟨htags, hbody⟩
    · cases h
    · cases h
  · rintro ⟨htags, hbody⟩
    unfold tags at htags
    simp only [htags, Kind.ofName_name]
    exact hbody

section rewrite

variable {k : Kind} {ms ms' : List (String × Json)}

/-- Every kind looks at the member that selects it. -/
theorem Kind.type_mem_owned (k : Kind) : "type" ∈ k.owned := by
  cases k <;> exact List.mem_cons_self

/-- The member that selects a kind may not be missing. -/
theorem Kind.type_not_mem_optional (k : Kind) : "type" ∉ k.optional := by
  cases k <;> decide

/-- A member that may be written otherwise is not the one that selects the kind. -/
theorem Inside.ne_type {name : String} {v w : Json} (h : Inside k name v w) : name ≠ "type" := by
  cases h <;> decide

/-- No step makes another member the one that selects the kind, and the other members take the
same step. -/
theorem split_rewrite (rewrite : Rewrite k.owned k.optional (Inside k) ms ms') :
    (∀ m, tags ms = [m] ↔ tags ms' = [m]) ∧
      Rewrite k.owned k.optional (Inside k) (untagged ms) (untagged ms') := by
  cases rewrite with
  | reordered perm =>
    have hperm : (tags ms).Perm (tags ms') := perm.filter _
    refine ⟨fun m => ⟨fun h => ?_, fun h => ?_⟩, .reordered (perm.filter _)⟩
    · rw [h] at hperm
      exact (List.singleton_perm.1 hperm).symm
    · rw [h] at hperm
      exact List.perm_singleton.1 hperm
  | @foreign _ name _ foreign =>
    have hne : name ≠ "type" := by
      rintro rfl
      exact foreign k.type_mem_owned
    exact ⟨by simp [tags, hne], by simpa [untagged, hne] using .foreign foreign⟩
  | @nulled _ name may absent =>
    have hne : name ≠ "type" := by
      rintro rfl
      exact k.type_not_mem_optional may
    refine ⟨by simp [tags, hne], ?_⟩
    simpa [untagged, hne] using .nulled may fun m hm => absent m (List.mem_of_mem_filter hm)
  | within same =>
    have hne := same.ne_type
    exact ⟨by simp [tags, hne], by simpa [untagged, hne] using .within same⟩

end rewrite

/-- Members that say the same to the kind of a chunk denote it together. -/
theorem ofMembers_rewritten {c : Chunk} {ms ms' : List (String × Json)}
    (rewritten : Rewritten c.kind.owned c.kind.optional (Inside c.kind) ms ms') :
    ofMembers ms = .ok c ↔ ofMembers ms' = .ok c := by
  have hplain := c.kind.parts_plain
  have hall : ∀ p ∈ c.kind.parts, p.name ∈ c.kind.owned := by
    cases c.kind <;> simp [Kind.parts, Kind.owned, BodyPart.of]
  have hfresh : ∀ p ∈ c.kind.parts, p.isRead {} = false := by
    cases c.kind <;> simp [Kind.parts, BodyPart.of]
  induction rewritten with
  | rel ms ms' step =>
    obtain ⟨htags, huntagged⟩ := split_rewrite step
    have hbody := hplain.takeMembers_rewritten hall hfresh (.rel _ _ huntagged) c
    rw [ofMembers_eq_ok_iff, ofMembers_eq_ok_iff, htags, hbody]
  | refl => rfl
  | symm _ _ _ ih => exact ih.symm
  | trans _ _ _ _ _ ih ih' => exact ih.trans ih'

/-! ## Texts -/

/-- A kind is read where its name can be read as a value. -/
theorem readKind_eq_ok_iff {depth : ℕ} {cs rest : List Char} {k : Kind} :
    readKind cs = .ok (k, rest) ↔ readValue depth cs = .ok (.str k.name, rest) := by
  rw [readValue_eq_str_iff]
  unfold readKind readStringAs readString
  constructor
  · intro h
    split at h
    · cases h
    · rename_i name rest' hstring
      split at h
      · cases h
      · rename_i k' hk
        cases h
        obtain rfl := Kind.ofName_eq_ok_iff.1 hk
        split at hstring
        · cases hstring
        · rename_i rest'' hskip
          exact ⟨rest'', hskip, hstring⟩
        · cases hstring
  · rintro ⟨rest', hskip, hread⟩
    simp [hskip, hread, Kind.ofName_name]

/-- The member that selects a kind. -/
def Kind.tag (k : Kind) : String × Json :=
  ("type", .str k.name)

/-- Two kinds have two tags. -/
theorem Kind.tag_injective : Function.Injective Kind.tag := by
  intro k k' h
  cases k <;> cases k' <;> first | rfl | simp [tag, name] at h

/-- A member that selects a kind is one of those. -/
theorem tags_cons_type (v : Json) (ms : List (String × Json)) :
    tags (("type", v) :: ms) = ("type", v) :: tags ms := by
  simp [tags]

/-- Another member selects no kind. -/
theorem tags_cons_of_ne {name : String} (h : name ≠ "type") (v : Json)
    (ms : List (String × Json)) : tags ((name, v) :: ms) = tags ms := by
  simp [tags, h]

/-- A member that selects a kind is none of the others. -/
theorem untagged_cons_type (v : Json) (ms : List (String × Json)) :
    untagged (("type", v) :: ms) = untagged ms := by
  simp [untagged]

/-- Another member is one of the others. -/
theorem untagged_cons_of_ne {name : String} (h : name ≠ "type") (v : Json)
    (ms : List (String × Json)) : untagged ((name, v) :: ms) = (name, v) :: untagged ms := by
  simp [untagged, h]

/-- The members that select a kind can be read in either direction. -/
theorem tags_reverse (ms : List (String × Json)) : tags ms.reverse = (tags ms).reverse :=
  List.filter_reverse ..

/-- The other members can be read in either direction. -/
theorem untagged_reverse (ms : List (String × Json)) :
    untagged ms.reverse = (untagged ms).reverse :=
  List.filter_reverse ..

section members

variable {fuel : ℕ} {first : Bool} {kind : Option Kind} {done : List (String × Json)}
  {cs rest : List Char} {k : Kind}

/-- The members of a chunk that is read can be read as values, and the only member `type` among
them is its kind. -/
theorem readMembers_of_readTagged {body : Body}
    (tagged : tags done = (kind.map Kind.tag).toList)
    (h : readTagged fuel first kind (untagged done) cs = .ok ((k, body), rest)) :
    ∃ ms, readMembers (readValue (maxDepth - 1)) fuel first done cs = .ok (ms, rest) ∧
      tags ms = [k.tag] ∧ body = .members (untagged ms) := by
  induction fuel generalizing first kind done cs with
  | zero => cases h
  | succ fuel ih =>
    rw [readTagged] at h
    split at h
    · cases h
    · rename_i rest' hnext
      split at h
      · cases h
      · cases h
        refine ⟨done.reverse, by simp [readMembers, hnext], ?_, ?_⟩
        · rw [tags_reverse, tagged]
          rfl
        · rw [untagged_reverse]
    · rename_i rest' hnext
      split at h
      · cases h
      · rename_i name rest₁ htext
        split_ifs at h with hname hkind
        · obtain rfl := hname
          split at h
          · cases h
          · rename_i k' rest₃ hvalue
            obtain ⟨rest₂, hcolon, hread⟩ := bind_eq_ok hvalue
            rw [@readKind_eq_ok_iff (maxDepth - 1)] at hread
            rw [← untagged_cons_type (.str k'.name)] at h
            obtain rfl : kind = none := by simpa using hkind
            obtain ⟨ms, hms, hrest⟩ := ih (by rw [tags_cons_type, tagged]; rfl) h
            exact ⟨ms, by simpa [readMembers, hnext, readMember, htext, hcolon, hread] using hms,
              hrest⟩
        · split at h
          · cases h
          · rename_i v rest₃ hvalue
            obtain ⟨rest₂, hcolon, hread⟩ := bind_eq_ok hvalue
            rw [← untagged_cons_of_ne hname] at h
            obtain ⟨ms, hms, hrest⟩ := ih (by rw [tags_cons_of_ne hname, tagged]) h
            exact ⟨ms, by simpa [readMembers, hnext, readMember, htext, hcolon, hread] using hms,
              hrest⟩

/-- A chunk is read where its members can be read as values, if the only member `type` among them
is a kind. -/
theorem readTagged_of_readMembers {ms : List (String × Json)}
    (tagged : tags done = (kind.map Kind.tag).toList)
    (h : readMembers (readValue (maxDepth - 1)) fuel first done cs = .ok (ms, rest))
    (htags : tags ms = [k.tag]) :
    readTagged fuel first kind (untagged done) cs = .ok ((k, .members (untagged ms)), rest) := by
  induction fuel generalizing first kind done cs with
  | zero => cases h
  | succ fuel ih =>
    rw [readMembers] at h
    split at h
    · cases h
    · rename_i rest' hnext
      cases h
      rw [tags_reverse, tagged] at htags
      cases kind with
      | none => cases htags
      | some k' =>
        obtain rfl := Kind.tag_injective (List.singleton_inj.1 htags)
        simp [readTagged, hnext, untagged_reverse]
    · rename_i rest' hnext
      split at h
      · cases h
      · rename_i m rest₃ hmember
        obtain ⟨name, v⟩ := m
        obtain ⟨rest₁, rest₂, htext, hcolon, hvalue⟩ := readMember_eq_ok hmember
        rw [readTagged]
        by_cases hname : name = "type"
        · subst hname
          -- what is read later stands behind this member
          have hprefix : tags (("type", v) :: done).reverse <+: tags ms :=
            (prefix_of_readMembers h).filter _
          rw [htags, tags_reverse, tags_cons_type, tagged] at hprefix
          cases kind with
          | some k' =>
            have := hprefix.length_le
            simp at this
          | none =>
            obtain rfl : v = .str k.name := by simpa [Kind.tag] using hprefix
            have hkind := (@readKind_eq_ok_iff (maxDepth - 1) ..).2 hvalue
            have hrest := @ih _ (some k) _ _ (by rw [tags_cons_type, tagged]; rfl) h
            rw [untagged_cons_type] at hrest
            simpa [hnext, htext, hcolon, hkind, Except.bind] using hrest
        · have hrest := ih (by rw [tags_cons_of_ne hname, tagged]) h
          rw [untagged_cons_of_ne hname] at hrest
          simpa [hnext, htext, hname, hcolon, hvalue, Except.bind] using hrest

end members

/-- A text is a chunk exactly if a content can be read of it, built, and followed by nothing. -/
theorem ofText_eq_ok_iff_readContent {text : String} {c : Chunk} :
    ofText text = .ok c ↔ ∃ k body rest, readContent text.toList = .ok ((k, body), rest) ∧
      ofBody k body = .ok c ∧ skipBlank rest = [] := by
  unfold ofText ofChars
  constructor
  · intro h
    split at h
    · cases h
    · rename_i k body rest hcontent
      split at h
      · cases h
      · rename_i hbody
        split at h
        · rename_i hend
          cases h
          exact ⟨k, body, rest, hcontent, hbody, hend⟩
        · cases h
  · rintro ⟨k, body, rest, hcontent, hbody, hend⟩
    simp [hcontent, hbody, hend]

/-- The text of an object is a chunk when it is read as JSON and its members denote the chunk. -/
theorem ofText_eq_ok_iff {text : String} {rest : List Char}
    (object : skipBlank text.toList = '\x7b' :: rest) {c : Chunk} :
    ofText text = .ok c ↔ ∃ ms, Json.ofText text = .ok (.obj ms) ∧ ofMembers ms = .ok c := by
  simp only [ofText_eq_ok_iff_readContent, ofText_eq_obj_iff, ofMembers_eq_ok_iff, readContent,
    object, List.cons.injEq, true_and]
  have hstart : tags [] = (Option.map Kind.tag none).toList := rfl
  constructor
  · rintro ⟨k, body, rest', hcontent, hbody, hend⟩
    obtain ⟨ms, hms, htags, rfl⟩ := readMembers_of_readTagged hstart (mapError_eq_ok hcontent)
    obtain ⟨d, -, rfl⟩ := map_eq_ok hbody
    refine ⟨ms, ⟨rest, rest', rfl, hms, hend⟩, ?_, ?_⟩
    · rw [kind_build]
      exact htags
    · rw [kind_build]
      exact hbody
  · rintro ⟨ms, ⟨rest, rest', rfl, hms, hend⟩, htags, hbody⟩
    have htagged := readTagged_of_readMembers hstart hms htags
    refine ⟨c.kind, .members (untagged ms), rest', ?_, hbody, hend⟩
    exact (congrArg _ htagged).trans rfl

/-- What a chunk is depends on the member `type` and on the members of that kind.  From a text of
an object that is a chunk, the members may be put in another order, members of other names may be
added or removed whatever they hold, and those that are optional may be null or missing, also in
the parts of a chunk: every text that is read as such an object is the same chunk, and there is
one unless it is too deep or has doubles.  A text of an object that is a chunk is read as JSON,
and one of its members, and only one, is `type` with the name of a kind. -/
theorem decoded_by_kind (c : Chunk) :
    (∀ text text' ms ms', Json.ofText text = .ok (.obj ms) → Json.ofText text' = .ok (.obj ms') →
      Rewritten c.kind.owned c.kind.optional (Inside c.kind) ms ms' →
      ofText text = .ok c → ofText text' = .ok c) ∧
    (∀ text ms ms', Json.ofText text = .ok (.obj ms) →
      Rewritten c.kind.owned c.kind.optional (Inside c.kind) ms ms' →
      Json.Fits maxDepth (.obj ms') → (Json.obj ms').isFloatFree = true →
      ofText text = .ok c → ofText (Json.obj ms').toText = .ok c) ∧
    (∀ text rest, skipBlank text.toList = '\x7b' :: rest → ofText text = .ok c →
      ∃ ms, Json.ofText text = .ok (.obj ms) ∧
        ms.filter (fun m => m.1 = "type") = [("type", .str c.kind.name)]) ∧
    ∀ text ms, Json.ofText text = .ok (.obj ms) → (∀ k : Kind, ("type", .str k.name) ∉ ms) →
      ofText text ≠ .ok c := by
  have hmembers : ∀ text ms, Json.ofText text = .ok (.obj ms) →
      (ofText text = .ok c ↔ ofMembers ms = .ok c) := by
    intro text ms hms
    obtain ⟨rest, -, hskip, -⟩ := ofText_eq_obj_iff.1 hms
    rw [ofText_eq_ok_iff hskip, hms]
    simp
  refine ⟨?_, ?_, ?_, ?_⟩
  · intro text text' ms ms' hms hms' hrewritten h
    exact (hmembers text' ms' hms').2 ((ofMembers_rewritten hrewritten).1 ((hmembers text ms hms).1 h))
  · intro text ms ms' hms hrewritten hfits hfloat h
    refine (hmembers _ ms' (ofText_toText hfits hfloat)).2 ?_
    exact (ofMembers_rewritten hrewritten).1 ((hmembers text ms hms).1 h)
  · intro text rest hskip h
    obtain ⟨ms, hms, hchunk⟩ := (ofText_eq_ok_iff hskip).1 h
    exact ⟨ms, hms, (ofMembers_eq_ok_iff.1 hchunk).1⟩
  · intro text ms hms hno h
    have htags := (ofMembers_eq_ok_iff.1 ((hmembers text ms hms).1 h)).1
    have hmem : ("type", Json.str c.kind.name) ∈ tags ms := by simp [htags]
    exact hno c.kind (List.mem_of_mem_filter hmem)

/-- The end of a reply, once with its own members only and once with a member of another kind,
with nulls and in another order. -/
theorem decoded_by_kind_usage :
    let c : Chunk := .done none (some ⟨none, none, some 3⟩) none
    let text := "\x7b\"type\":\"done\",\"usage\":\x7b\"total_tokens\":3\x7d\x7d"
    let text' := "\x7b\"delta\":[7],\"usage\":\x7b\"prompt_tokens\":null,\"total_tokens\":3\x7d," ++
      "\"thread_id\":null,\"type\":\"done\"\x7d"
    let ms := [("type", Json.str "done"), ("usage", .obj [("total_tokens", .ofInt 3)])]
    let ms' := [("delta", Json.arr [.ofInt 7]),
      ("usage", .obj [("prompt_tokens", .null), ("total_tokens", .ofInt 3)]),
      ("thread_id", .null), ("type", .str "done")]
    Json.ofText text = .ok (.obj ms) ∧ Json.ofText text' = .ok (.obj ms') ∧
      Rewritten c.kind.owned c.kind.optional (Inside c.kind) ms ms' ∧
      ofText text = .ok c ∧ ofText text' = .ok c := by
  intro c text text' ms ms'
  have hms : Json.ofText text = .ok (.obj ms) := by decide +kernel
  have hms' : Json.ofText text' = .ok (.obj ms') := by decide +kernel
  have hchunk : ofText text = .ok c := by decide +kernel
  have husage : Same usageNames (.obj [("total_tokens", .ofInt 3)])
      (.obj [("prompt_tokens", .null), ("total_tokens", .ofInt 3)]) :=
    .obj (.rel _ _ (.nulled (by decide) (by decide)))
  have hrewritten : Rewritten c.kind.owned c.kind.optional (Inside c.kind) ms ms' := by
    refine .trans _ _ _ (.rel _ _ (.reordered (.swap ..))) ?_
    refine .trans _ _ _ (.rel _ _ (.within (.usage husage))) ?_
    refine .trans _ _ _ (.rel _ _ (.nulled (by decide : "thread_id" ∈ _) (by decide))) ?_
    refine .trans _ _ _ ?_ (.rel _ _ (.reordered (.cons _ (.swap ..))))
    exact .rel _ _ (.foreign (by decide))
  exact ⟨hms, hms', hrewritten, hchunk,
    (decoded_by_kind c).1 text text' ms ms' hms hms' hrewritten hchunk⟩

/-- Lists in a list, so many deep. -/
def nest : ℕ → Json
  | 0 => .arr []
  | depth + 1 => .arr [nest depth]

/-- A member of another kind does make a difference when it cannot be read: when it is too deep,
has half of a pair of surrogates, or a number that no double comes near. -/
theorem not_decoded_by_kind_unread :
    let ms := [("type", Json.str "delta"), ("delta", .str "x")]
    ofText (Json.obj ms).toText = .ok (.delta "x") ∧
      Rewrite Kind.delta.owned Kind.delta.optional (Inside .delta) ms (("error", nest 126) :: ms) ∧
      ofText (Json.obj (("error", nest 126) :: ms)).toText = .error ⟨.tooDeep, some ⟨1, 136⟩⟩ ∧
      ofText "\x7b\"error\":\"\\ud800\",\"type\":\"delta\",\"delta\":\"x\"\x7d" =
        .error ⟨.brokenEscape, some ⟨1, 17⟩⟩ ∧
      ofText "\x7b\"error\":1e999,\"type\":\"delta\",\"delta\":\"x\"\x7d" =
        .error ⟨.numberOutOfRange, some ⟨1, 14⟩⟩ := by
  refine ⟨by decide +kernel, .foreign (by decide), ?_, by decide +kernel, by decide +kernel⟩
  -- the text is taken as the characters that are printed, which keeps the evaluation small
  unfold ofText Json.toText
  rw [String.toList_ofList]
  decide +kernel

end ChatGateway.Chunk
