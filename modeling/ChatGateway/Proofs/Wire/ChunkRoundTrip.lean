import Mathlib
import ChatGateway.Proofs.Wire.Decoded

/-!
# Chunks read back

What is written for a decoded chunk without doubles is decoded to the same chunk.  The
decoders undo the encoding part by part; the reader of tagged objects finds the kind in the
first member and reads the others as values; and every value of a decoded chunk could be
read again.
-/

set_option autoImplicit false

namespace ChatGateway

open ChatGateway.Json

/-! ## Parts -/

namespace Json

/-- A value that is not null is decoded as what must be there. -/
theorem decodeOptional_of_ne_null {α : Type} {value : Json → Except Cause α} {v : Json} {x : α}
    (hne : v ≠ .null) (h : value v = .ok x) : decodeOptional value v = .ok (some x) := by
  cases v with
  | null => exact absurd rfl hne
  | _ => simp [decodeOptional, h, Except.map]

/-- A text that may be missing is read back. -/
theorem decodeOptional_text (s : String) :
    decodeOptional decodeText (.str s) = .ok (some s) := rfl

/-- A value of any kind that may be missing is read back. -/
theorem decodeOptional_any {depth : Nat} {v : Json} (h : Kept depth v) :
    decodeOptional decodeAny v = .ok (some v) :=
  decodeOptional_of_ne_null h.ne_null (by rw [decodeAny, h.distinct_eq])

/-- A count that may be missing is read back. -/
theorem decodeOptional_count (n : Option Nat) :
    decodeOptional decodeWord (Usage.count n) = .ok n := by
  cases n <;> rfl

/-- A list is read back if its items are. -/
theorem decodeList_map {α : Type} {value : Json → Except Cause α} {write : α → Json}
    {xs : List α} (h : ∀ x ∈ xs, value (write x) = .ok x) :
    decodeList value (.arr (xs.map write)) = .ok xs := by
  rw [decodeList]
  induction xs with
  | nil => rfl
  | cons x xs ih =>
    obtain ⟨hx, hrest⟩ := List.forall_mem_cons.1 h
    rw [List.map_cons, List.mapM_cons, hx, ih hrest]
    rfl

end Json

/-- A tool call is read back from what is written for it. -/
theorem ToolCall.decode_toJson {depth : Nat} {call : ToolCall} (h : call.Kept depth) :
    Chunk.decodeCall call.toJson = .ok call := by
  obtain ⟨id, name, arguments⟩ := call
  cases arguments with
  | none =>
    cases id <;> cases name <;>
      simp [toJson, Chunk.decodeCall, decodeRecord, Body.take, takeMembers, Chunk.callParts,
        BodyPart.of, Json.given, decodeOptional_text, Except.map]
  | some v =>
    have hv := decodeOptional_any (h v rfl)
    cases id <;> cases name <;>
      simp [toJson, Chunk.decodeCall, decodeRecord, Body.take, takeMembers, Chunk.callParts,
        BodyPart.of, Json.given, decodeOptional_text, hv, Except.map]

/-- A usage is read back from what is written for it. -/
theorem Usage.decode_toJson (u : Usage) : Chunk.decodeUsage u.toJson = .ok u := by
  obtain ⟨prompt, completion, total⟩ := u
  simp [toJson, Chunk.decodeUsage, decodeRecord, Body.take, takeMembers, Chunk.usageParts,
    BodyPart.of, decodeOptional_count, Except.map]

/-! ## Depths -/

/-- A member that may be left out fits when its value does. -/
theorem Json.fits_given {depth : Nat} {name : String} {v? : Option Json}
    (h : ∀ v, v? = some v → Json.Fits depth v) :
    ∀ m ∈ Json.given name v?, Json.Fits depth m.2 := by
  cases v? with
  | none => simp [Json.given]
  | some v => simpa [Json.given] using h v rfl

/-- A text that may be missing fits at any depth. -/
theorem Json.fits_given_text {depth : Nat} {name : String} (text : Option String) :
    ∀ m ∈ Json.given name (text.map .str), Json.Fits depth m.2 := by
  refine Json.fits_given fun v hv => ?_
  obtain ⟨s, -, rfl⟩ := Option.map_eq_some_iff.1 hv
  exact .str

/-- A tool call that can be kept fits one level deeper. -/
theorem ToolCall.fits_toJson {depth : Nat} {call : ToolCall} (h : call.Kept depth) :
    Json.Fits (depth + 1) call.toJson := by
  refine .obj (List.forall_mem_append.2 ⟨List.forall_mem_append.2 ⟨?_, ?_⟩, ?_⟩)
  · exact fits_given_text call.id
  · exact fits_given_text call.name
  · exact fits_given fun v hv => (h v hv).fits

/-- A usage whose counts fit is written with numbers that fit. -/
theorem Usage.fits_toJson {depth : Nat} {u : Usage} (h : u.Fits) :
    Json.Fits (depth + 1) u.toJson := by
  have hcount : ∀ n : Option Nat, (∀ k, n = some k → k ≤ wordMax) →
      Json.Fits depth (Usage.count n) := by
    rintro (_ | k) hk
    · exact .null
    · exact .number ⟨by omega, Int.ofNat_le.2 (hk k rfl)⟩
  refine .obj fun m hm => ?_
  simp only [List.mem_cons, List.not_mem_nil, or_false] at hm
  rcases hm with rfl | rfl | rfl
  · exact hcount _ fun k hk => h k (.inl hk)
  · exact hcount _ fun k hk => h k (.inr (.inl hk))
  · exact hcount _ fun k hk => h k (.inr (.inr hk))

namespace Chunk

/-- The kind of a chunk. -/
def kind : Chunk → Kind
  | .delta _ => .delta
  | .toolCall .. => .toolCall
  | .toolResult _ => .toolResult
  | .done .. => .done
  | .error _ => .error

/-- The name of a kind. -/
def Kind.name : Kind → String
  | .delta => "delta"
  | .toolCall => "tool_call"
  | .toolResult => "tool_result"
  | .done => "done"
  | .error => "error"

/-- A kind is read back from its name. -/
theorem Kind.ofName_name (k : Kind) : Kind.ofName k.name = .ok k := by
  cases k <;> simp [Kind.ofName, Kind.name]

/-- The members of a chunk besides its kind. -/
def members : Chunk → List (String × Json)
  | .delta text => [("delta", .str text)]
  | .toolCall calls name =>
    Json.given "tool_calls" (calls.map fun cs => .arr (cs.map ToolCall.toJson)) ++
      Json.given "tool_name" (name.map .str)
  | .toolResult result => Json.given "tool_result" result
  | .done reason usage thread =>
    Json.given "finish_reason" (reason.map .str) ++ Json.given "usage" (usage.map Usage.toJson) ++
      Json.given "thread_id" (thread.map .str)
  | .error message => Json.given "error" (message.map .str)

/-- A chunk is written with its kind first. -/
theorem toJson_eq (c : Chunk) : c.toJson = .obj (("type", .str c.kind.name) :: c.members) := by
  cases c <;> simp [toJson, kind, Kind.name, members]

/-- The members of a chunk are decoded to the chunk. -/
theorem ofBody_members {depth : Nat} {c : Chunk} (h : c.Kept depth) :
    ofBody c.kind (.members c.members) = .ok c := by
  cases c with
  | delta text =>
    simp [ofBody, Body.take, takeMembers, kind, members, Kind.parts, Kind.build, BodyPart.of,
      decodeText, Except.map]
  | toolCall calls name =>
    cases calls with
    | none =>
      cases name <;>
        simp [ofBody, Body.take, takeMembers, kind, members, Kind.parts, Kind.build, BodyPart.of,
          Json.given, decodeOptional_text, Except.map]
    | some cs =>
      have hcalls : decodeOptional (decodeList decodeCall) (.arr (cs.map ToolCall.toJson)) =
          .ok (some cs) :=
        decodeOptional_of_ne_null (by simp)
          (decodeList_map fun call hcall => ToolCall.decode_toJson (h cs rfl call hcall))
      cases name <;>
        simp [ofBody, Body.take, takeMembers, kind, members, Kind.parts, Kind.build, BodyPart.of,
          Json.given, decodeOptional_text, hcalls, Except.map]
  | toolResult result =>
    cases result with
    | none =>
      simp [ofBody, Body.take, takeMembers, kind, members, Kind.parts, Kind.build, Json.given,
        Except.map]
    | some v =>
      simp [ofBody, Body.take, takeMembers, kind, members, Kind.parts, Kind.build, BodyPart.of,
        Json.given, decodeOptional_any (h v rfl), Except.map]
  | done reason usage thread =>
    have husage : ∀ u : Usage, decodeOptional decodeUsage u.toJson = .ok (some u) := fun u =>
      decodeOptional_of_ne_null (by simp [Usage.toJson]) u.decode_toJson
    cases reason <;> cases usage <;> cases thread <;>
      simp [ofBody, Body.take, takeMembers, kind, members, Kind.parts, Kind.build, BodyPart.of,
        Json.given, decodeOptional_text, husage, Except.map]
  | error message =>
    cases message <;>
      simp [ofBody, Body.take, takeMembers, kind, members, Kind.parts, Kind.build, BodyPart.of,
        Json.given, decodeOptional_text, Except.map]

/-! ## Texts -/

/-- The members of a decoded chunk could be read again. -/
theorem fits_members {depth : Nat} {c : Chunk} (h : c.Kept depth) :
    ∀ m ∈ c.members, Json.Fits (depth + 2) m.2 := by
  cases c with
  | delta text =>
    intro m hm
    obtain rfl := List.mem_singleton.1 hm
    exact .str
  | toolCall calls name =>
    refine List.forall_mem_append.2 ⟨fits_given fun v hv => ?_, fits_given_text name⟩
    obtain ⟨cs, hcs, rfl⟩ := Option.map_eq_some_iff.1 hv
    refine .arr fun v hv => ?_
    obtain ⟨call, hcall, rfl⟩ := List.mem_map.1 hv
    exact ToolCall.fits_toJson (h cs hcs call hcall)
  | toolResult result => exact fits_given fun v hv => (h v hv).fits
  | done reason usage thread =>
    refine List.forall_mem_append.2 ⟨List.forall_mem_append.2 ⟨fits_given_text reason, ?_⟩,
      fits_given_text thread⟩
    refine fits_given fun v hv => ?_
    obtain ⟨u, hu, rfl⟩ := Option.map_eq_some_iff.1 hv
    exact Usage.fits_toJson (h u hu)
  | error message => exact fits_given_text message

/-- No other member of a chunk has the name of its kind's. -/
theorem members_ne_type (c : Chunk) : ∀ m ∈ c.members, m.1 ≠ "type" := by
  have hgiven : ∀ (name : String) (v : Option Json), name ≠ "type" →
      ∀ m ∈ Json.given name v, m.1 ≠ "type" := by
    rintro name (_ | v) hname m hm
    · cases hm
    · obtain rfl := List.mem_singleton.1 hm
      exact hname
  cases c with
  | delta text => exact hgiven "delta" (some (.str text)) (by decide)
  | toolCall calls name =>
    exact List.forall_mem_append.2 ⟨hgiven _ _ (by decide), hgiven _ _ (by decide)⟩
  | toolResult result => exact hgiven _ _ (by decide)
  | done reason usage thread =>
    exact List.forall_mem_append.2
      ⟨List.forall_mem_append.2 ⟨hgiven _ _ (by decide), hgiven _ _ (by decide)⟩,
        hgiven _ _ (by decide)⟩
  | error message => exact hgiven _ _ (by decide)

/-- Once the kind is known, the other members are read up to the end of the object. -/
theorem readTagged_more {k : Kind} {ms : List (String × Json)}
    (hname : ∀ m ∈ ms, m.1 ≠ "type")
    (hread : ∀ m ∈ ms, ∀ rest, endsNumber rest = true →
      readValue (maxDepth - 1) (print m.2 ++ rest) = .ok (m.2, rest))
    (others : List (String × Json)) {fuel : Nat} (hfuel : ms.length < fuel) (rest : List Char) :
    readTagged fuel false (some k) others
        ((ms.flatMap fun m => ',' :: printMember m) ++ '\x7d' :: rest) =
      .ok ((k, .members (others.reverse ++ ms)), rest) := by
  induction ms generalizing fuel others with
  | nil =>
    obtain ⟨fuel, rfl⟩ := Nat.exists_eq_add_of_lt hfuel
    simp [readTagged, nextMember, skipBlank]
  | cons m ms ih =>
    obtain ⟨fuel, rfl⟩ := Nat.exists_eq_add_of_lt hfuel
    have hvalue := hread m List.mem_cons_self _
      (endsNumber_flatMap printMember ms (c := '\x7d') rfl rest)
    have hcolon : ∀ more, readColon (':' :: more) = .ok more := by simp [readColon, skipBlank]
    rw [List.flatMap_cons, List.append_assoc, List.cons_append, printMember, List.append_assoc,
      List.cons_append, readTagged, nextMember_comma]
    simp only [readText_escaped, if_neg (hname m List.mem_cons_self), hcolon, Except.bind, hvalue]
    rw [ih (fun m' hm => hname m' (List.mem_cons_of_mem m hm))
      (fun m' hm => hread m' (List.mem_cons_of_mem m hm)) _
      (by simp only [List.length_cons]; omega)]
    simp

/-- A kind is read back from its name. -/
theorem readKind_name (k : Kind) (rest : List Char) :
    readKind (printText k.name ++ rest) = .ok (k, rest) := by
  rw [readKind, readStringAs, readString, printText, List.append_assoc, List.cons_append,
    List.cons_append, skipBlank_of_isSolid (by decide)]
  simp [readText_escaped, Kind.ofName_name]

/-- The kind that stands first and the other members are read back. -/
theorem readContent_printed {k : Kind} {ms : List (String × Json)}
    (hname : ∀ m ∈ ms, m.1 ≠ "type")
    (hread : ∀ m ∈ ms, ∀ rest, endsNumber rest = true →
      readValue (maxDepth - 1) (print m.2 ++ rest) = .ok (m.2, rest)) (rest : List Char) :
    readContent (print (.obj (("type", .str k.name) :: ms)) ++ rest) =
      .ok ((k, .members ms), rest) := by
  have hlength := length_le_length_flatMap_cons printMember ms
  have hcolon : ∀ more, readColon (':' :: more) = .ok more := by simp [readColon, skipBlank]
  have hkind : ∀ more, readKind (print (.str k.name) ++ more) = .ok (k, more) := fun more => by
    rw [print]
    exact readKind_name k more
  have htype : printMember ("type", .str k.name) =
      printText "type" ++ ':' :: print (.str k.name) := rfl
  rw [print, printMembers_cons, readContent, List.append_assoc, List.cons_append,
    skipBlank_of_isSolid (by decide), htype]
  simp only [List.append_assoc, List.cons_append]
  rw [readTagged, nextMember_first]
  simp only [readText_escaped, Option.isSome_none, Bool.false_eq_true, ↓reduceIte, hcolon,
    Except.bind, hkind]
  rw [readTagged_more hname hread [] (by
    simp only [List.length_append, List.length_cons]
    omega)]
  rfl

/-- **Chunks.**  A decoded chunk without doubles is decoded again from what is written for
it. -/
theorem ofText_toJson {c : Chunk} (hdecoded : ∃ text, ofText text = .ok c)
    (hfloat : c.toJson.isFloatFree = true) : ofText c.toJson.toText = .ok c := by
  obtain ⟨text, htext⟩ := hdecoded
  have hkept := kept_of_ofText htext
  rw [toJson_eq, Json.isFloatFree, Json.membersFloatFree, Bool.and_eq_true,
    membersFloatFree_iff] at hfloat
  have hread : ∀ m ∈ c.members, ∀ rest, endsNumber rest = true →
      readValue (maxDepth - 1) (print m.2 ++ rest) = .ok (m.2, rest) := fun m hm rest hrest =>
    readValue_print (fits_members hkept m hm) (hfloat.2 m hm) hrest
  have hcontent := readContent_printed (k := c.kind) (members_ne_type c) hread []
  rw [List.append_nil, ← toJson_eq] at hcontent
  simp only [ofText, ofChars, toText, String.toList_ofList, hcontent, ofBody_members hkept,
    skipBlank]

end Chunk

end ChatGateway
