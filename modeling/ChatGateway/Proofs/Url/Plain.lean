import Mathlib
import ChatGateway.Endpoint
import ChatGateway.Url.Path

/-!
# Plain segments

A plain segment keeps its spelling and stands for itself in a path: it is neither spelled in
another way nor taken for a step to another directory.  Below any directory, plain segments
with slashes between them are read as what they say (`readPath_append_slash`).
-/

set_option autoImplicit false

namespace ChatGateway

/-- The characters of a segment are printable and no space. -/
theorem Endpoint.isSegmentChar_bounds {c : Char} (h : isSegmentChar c = true) :
    0x20 < c.toNat ∧ c.toNat < 0x7F := by
  simp only [isSegmentChar, Char.isAlphanum, Char.isAlpha, Char.isUpper, Char.isLower,
    Char.isDigit, Bool.or_eq_true, Bool.and_eq_true, decide_eq_true_eq, ge_iff_le,
    UInt32.le_iff_toNat_le] at h
  have hval : c.val.toNat = c.toNat := rfl
  have hZ : 'Z'.val.toNat = 90 := rfl
  have hA : 'A'.val.toNat = 65 := rfl
  have hz : 'z'.val.toNat = 122 := rfl
  have ha : 'a'.val.toNat = 97 := rfl
  have h9 : '9'.val.toNat = 57 := rfl
  have h0 : '0'.val.toNat = 48 := rfl
  rcases h with (((h | rfl) | rfl) | rfl) | rfl
  · omega
  all_goals decide

namespace Url

open Endpoint (isSegmentChar isSegmentChar_bounds)

/-! ## Plain segments -/

/-- A segment that keeps its spelling and stands for itself. -/
structure IsPlain (s : List Char) : Prop where
  nonempty : s ≠ []
  chars : ∀ c ∈ s, isSegmentChar c = true
  notDot : s ≠ ['.']
  notDots : s ≠ ['.', '.']

/-- A text that holds nothing but segments and slashes. -/
def IsQuiet (cs : List Char) : Prop :=
  ∀ c ∈ cs, c = '/' ∨ isSegmentChar c = true

/-- No text at all is quiet. -/
theorem isQuiet_nil : IsQuiet [] :=
  List.forall_mem_nil _

/-- A slash before a quiet text leaves it quiet. -/
theorem IsQuiet.cons_slash {cs : List Char} (h : IsQuiet cs) : IsQuiet ('/' :: cs) :=
  List.forall_mem_cons.2 ⟨.inl rfl, h⟩

/-- Some segments with slashes between them. -/
def joined (segs : List (List Char)) : List Char :=
  ['/'].intercalate segs

/-- Segments that are joined begin with the first and a slash. -/
theorem joined_cons (s : List Char) {segs : List (List Char)} (hne : segs ≠ []) :
    joined (s :: segs) = s ++ '/' :: joined segs := by
  obtain ⟨s', segs, rfl⟩ := List.exists_cons_of_ne_nil hne
  simp [joined, List.intercalate_cons_cons]

/-- A text of segments starts with the first of them. -/
theorem exists_joined_cons {s : List Char} (hs : s ≠ []) (segs : List (List Char)) :
    ∃ c ∈ s, ∃ cs, joined (s :: segs) = c :: cs := by
  obtain ⟨c, s, rfl⟩ := List.exists_cons_of_ne_nil hs
  cases segs with
  | nil => exact ⟨c, List.mem_cons_self, s, by simp [joined]⟩
  | cons s' segs =>
    exact ⟨c, List.mem_cons_self, s ++ '/' :: joined (s' :: segs), by simp [joined_cons]⟩

/-- A plain segment is quiet. -/
theorem IsPlain.isQuiet {s : List Char} (h : IsPlain s) : IsQuiet s :=
  fun c hc => .inr (h.chars c hc)

/-- Plain segments that are joined are quiet. -/
theorem isQuiet_joined {segs : List (List Char)} (h : ∀ s ∈ segs, IsPlain s) :
    IsQuiet (joined segs) := by
  induction segs with
  | nil => exact isQuiet_nil
  | cons s segs ih =>
    obtain ⟨hs, hsegs⟩ := List.forall_mem_cons.1 h
    cases segs with
    | nil => simpa [joined] using hs.isQuiet
    | cons s' segs =>
      intro c hc
      rw [joined_cons s (by simp), List.mem_append, List.mem_cons] at hc
      rcases hc with hc | hc | hc
      · exact hs.isQuiet c hc
      · exact .inl hc
      · exact ih hsegs c hc

/-- A quiet text holds no mark of the URL syntax. -/
theorem IsQuiet.not_mem {cs : List Char} (h : IsQuiet cs) {d : Char}
    (hd : (d ≠ '/' && !isSegmentChar d) = true) : d ∉ cs := by
  intro hmem
  rcases h d hmem with hslash | hchar
  · simp [hslash] at hd
  · simp [hchar] at hd

/-- The characters of a quiet text are printable and no space. -/
theorem IsQuiet.bounds {cs : List Char} (h : IsQuiet cs) {c : Char} (hc : c ∈ cs) :
    0x20 < c.toNat ∧ c.toNat < 0x7F := by
  rcases h c hc with rfl | hchar
  · decide
  · exact isSegmentChar_bounds hchar

/-! ## Spelling -/

/-- Texts are encoded one after the other. -/
theorem percentEncode_append (special cs ds : List Char) :
    percentEncode special (cs ++ ds) = percentEncode special cs ++ percentEncode special ds :=
  List.flatMap_append

/-- What may stand anywhere is written as it is. -/
theorem IsQuiet.percentEncode {special cs : List Char} (h : IsQuiet cs)
    (hspecial : special.all (fun d => d ≠ '/' && !isSegmentChar d) = true) :
    Url.percentEncode special cs = cs := by
  induction cs with
  | nil => rfl
  | cons c cs ih =>
    have hc : ¬ (c.toNat < 0x20 ∨ 0x7E < c.toNat ∨ c ∈ special) := by
      have hbounds := h.bounds List.mem_cons_self
      rintro (hlow | hhigh | hmem)
      · omega
      · omega
      · exact h.not_mem (List.all_eq_true.1 hspecial c hmem) List.mem_cons_self
    have hcons : Url.percentEncode special (c :: cs) =
        (if c.toNat < 0x20 ∨ 0x7E < c.toNat ∨ c ∈ special then
          (Text.Utf8.encodeChar c).flatMap percentByte else [c]) ++
            Url.percentEncode special cs := rfl
    rw [hcons, if_neg hc, ih fun d hd => h d (List.mem_cons_of_mem _ hd)]
    rfl

/-- A segment without percent signs has no points that are written as bytes. -/
theorem plainPoints_eq_self {s : List Char} (h : '%' ∉ s) : plainPoints s = s := by
  fun_induction plainPoints s with
  | case1 rest ih => simp at h
  | case2 rest ih => simp at h
  | case3 c rest hlower hupper ih => rw [ih fun hmem => h (List.mem_cons_of_mem _ hmem)]
  | case4 => rfl

/-! ## Paths -/

/-- A slash parts the segments before it from those after it. -/
theorem segments_append_slash (lenient : Bool) (segment cs ds : List Char) :
    segments lenient segment (cs ++ '/' :: ds) =
      segments lenient segment cs ++ segments lenient [] ds := by
  induction cs generalizing segment with
  | nil => simp [segments, isSlash]
  | cons c cs ih =>
    simp only [List.cons_append, segments]
    split
    · rw [ih, List.cons_append]
    · exact ih _

/-- A text without a slash is one segment. -/
theorem segments_of_not_isSlash {lenient : Bool} {s : List Char}
    (h : ∀ c ∈ s, isSlash lenient c = false) (segment : List Char) :
    segments lenient segment s = [segment.reverse ++ s] := by
  induction s generalizing segment with
  | nil => simp [segments]
  | cons c s ih =>
    obtain ⟨hc, hs⟩ := List.forall_mem_cons.1 h
    rw [segments, hc, if_neg Bool.false_ne_true, ih hs]
    simp

/-- A plain segment holds no slash of either kind. -/
theorem IsPlain.isSlash {s : List Char} (h : IsPlain s) (lenient : Bool) {c : Char}
    (hc : c ∈ s) : isSlash lenient c = false := by
  have hchar := h.chars c hc
  have hslash : c ≠ '/' := by
    rintro rfl
    exact absurd hchar (by decide)
  have hback : c ≠ '\\' := by
    rintro rfl
    exact absurd hchar (by decide)
  simp [Url.isSlash, hslash, hback]

/-- Segments that were put together are found again. -/
theorem segments_joined (lenient : Bool) {segs : List (List Char)} (hne : segs ≠ [])
    (h : ∀ s ∈ segs, IsPlain s) : segments lenient [] (joined segs) = segs := by
  induction segs with
  | nil => exact absurd rfl hne
  | cons s segs ih =>
    obtain ⟨hs, hsegs⟩ := List.forall_mem_cons.1 h
    have hself := segments_of_not_isSlash (fun c hc => hs.isSlash lenient hc) []
    cases segs with
    | nil => simpa [joined] using hself
    | cons s' segs =>
      rw [joined_cons s (by simp), segments_append_slash, hself, ih (by simp) hsegs]
      rfl

/-- A directory, last character first, with the directories of some segments added. -/
def directory (path : List Char) (segs : List (List Char)) : List Char :=
  segs.foldl (addSegment false false) path

/-- Segments that follow are put below the directory that those before lead to. -/
theorem addSegments_append (path : List Char) (front : List (List Char))
    {segs : List (List Char)} (hne : segs ≠ []) :
    addSegments false path (front ++ segs) = addSegments false (directory path front) segs := by
  induction front generalizing path with
  | nil => rfl
  | cons s front ih =>
    have hlast : (front ++ segs).isEmpty = false := by simp [hne]
    rw [List.cons_append, addSegments, hlast, ih]
    rfl

/-- A plain segment adds what it says. -/
theorem IsPlain.addSegment {s : List Char} (h : IsPlain s) (isLast : Bool) (path : List Char) :
    Url.addSegment false isLast path s =
      if isLast then s.reverse ++ path else '/' :: (s.reverse ++ path) := by
  have hname : percentEncode pathSpecial s = s := h.isQuiet.percentEncode (by decide)
  have hpoints : plainPoints s = s := plainPoints_eq_self (h.isQuiet.not_mem (by decide))
  simp [Url.addSegment, hname, hpoints, h.notDot, h.notDots]

/-- Plain segments are put behind the path as they stand. -/
theorem addSegments_joined (path : List Char) {segs : List (List Char)} (hne : segs ≠ [])
    (h : ∀ s ∈ segs, IsPlain s) :
    addSegments false path segs = (joined segs).reverse ++ path := by
  induction segs generalizing path with
  | nil => exact absurd rfl hne
  | cons s segs ih =>
    obtain ⟨hs, hsegs⟩ := List.forall_mem_cons.1 h
    rw [addSegments, hs.addSegment]
    cases segs with
    | nil => simp [joined, addSegments]
    | cons s' segs =>
      rw [ih _ (by simp) hsegs, joined_cons s (by simp)]
      simp

/-- Plain segments stand below any directory as they are. -/
theorem readPath_append_slash (lenient : Bool) (cs : List Char) {segs : List (List Char)}
    (hne : segs ≠ []) (h : ∀ s ∈ segs, IsPlain s) :
    readPath false lenient (cs ++ '/' :: joined segs) =
      readPath false lenient (cs ++ ['/']) ++ joined segs := by
  have hempty : addSegments false (directory ['/'] (segments lenient [] cs)) [[]] =
      directory ['/'] (segments lenient [] cs) := rfl
  simp only [readPath, segments_append_slash]
  rw [segments_joined lenient hne h, addSegments_append _ _ hne, addSegments_joined _ hne h]
  rw [segments, List.reverse_nil, addSegments_append _ _ (by simp), hempty]
  simp

/-- A path of plain segments is read as it stands. -/
theorem readPath_joined (lenient : Bool) {segs : List (List Char)} (hne : segs ≠ [])
    (h : ∀ s ∈ segs, IsPlain s) : readPath false lenient (joined segs) = '/' :: joined segs := by
  rw [readPath, segments_joined lenient hne h, addSegments_joined _ hne h]
  simp

end Url

end ChatGateway
