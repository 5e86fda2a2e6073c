import ChatGateway.Text.Blank
import ChatGateway.Text.Utf8

/-!
# Lines of an event stream

The bytes of a body arrive in pieces that respect neither lines nor characters.  A line
buffer keeps what has not been handed out yet; a line ends at a line feed and is given
trimmed, or as its bytes when these are no text.
-/

set_option autoImplicit false

namespace ChatGateway.Sse

/-- A line of a body. -/
inductive Line
  | text (s : String)
  /-- The bytes of a line that is not UTF-8. -/
  | invalid (bytes : List UInt8)
deriving DecidableEq, Repr

/-- The bytes before the first line feed and those after it, if there is one. -/
def splitLine : List UInt8 → Option (List UInt8 × List UInt8)
  | [] => none
  | b :: bs =>
    if b = 10 then some ([], bs)
    else (splitLine bs).map fun (line, rest) => (b :: line, rest)

/-- A line from its bytes, which hold no line feed. -/
def Line.ofBytes (bytes : List UInt8) : Line :=
  match Text.Utf8.decode? bytes with
  | some cs => .text (String.ofList (Text.trimChars cs))
  | none => .invalid bytes

/-- The bytes of a body that no line has been made of yet. -/
structure LineBuffer where
  bytes : List UInt8 := []
deriving DecidableEq, Repr

namespace LineBuffer

/-- The buffer with more bytes at its end. -/
def extend (buffer : LineBuffer) (bytes : List UInt8) : LineBuffer :=
  ⟨buffer.bytes ++ bytes⟩

/-- The next complete line, if there is one, and what is left. -/
def next (buffer : LineBuffer) : Option Line × LineBuffer :=
  match splitLine buffer.bytes with
  | none => (none, buffer)
  | some (line, rest) => (some (.ofBytes line), ⟨rest⟩)

/-- What is left when the body has ended without a line feed, read with replacement;
nothing when it is blank. -/
def remainder (buffer : LineBuffer) : Option String × LineBuffer :=
  let text := Text.trimChars (Text.Utf8.decodeLossy buffer.bytes)
  (if text.isEmpty then none else some (String.ofList text), ⟨[]⟩)

/-- The lines among the bytes of a buffer; the first argument bounds their number. -/
def drainFrom : Nat → LineBuffer → List Line × LineBuffer
  | 0, buffer => ([], buffer)
  | fuel + 1, buffer =>
    match buffer.next with
    | (none, rest) => ([], rest)
    | (some line, rest) =>
      let (lines, rest) := drainFrom fuel rest
      (line :: lines, rest)

/-- All complete lines, and what is left. -/
def drain (buffer : LineBuffer) : List Line × LineBuffer :=
  drainFrom buffer.bytes.length buffer

end LineBuffer

/-- A split puts a line feed back between its two parts. -/
theorem splitLine_eq_some_iff (bs line rest : List UInt8) :
    splitLine bs = some (line, rest) ↔ bs = line ++ 10 :: rest ∧ 10 ∉ line := by
  induction bs generalizing line with
  | nil => simp [splitLine]
  | cons b bs ih =>
    by_cases h : b = 10
    · subst h
      cases line with
      | nil => simp [splitLine, eq_comm]
      | cons c line =>
        simp only [splitLine, ↓reduceIte, Option.some.injEq, Prod.mk.injEq, List.cons_append,
          List.cons.injEq, List.mem_cons, not_or]
        constructor
        · rintro ⟨h, -⟩
          cases h
        · rintro ⟨⟨rfl, -⟩, h, -⟩
          exact absurd rfl h
    · cases line with
      | nil => simp [splitLine, h]
      | cons c line =>
        simp only [splitLine, h, ↓reduceIte, Option.map_eq_some_iff, Prod.exists, Prod.mk.injEq,
          List.cons.injEq, List.cons_append, List.mem_cons, not_or]
        constructor
        · rintro ⟨l, r, hs, ⟨rfl, rfl⟩, rfl⟩
          obtain ⟨he, hn⟩ := (ih l).1 hs
          exact ⟨⟨rfl, he⟩, fun e => h e.symm, hn⟩
        · rintro ⟨⟨rfl, he⟩, -, hn⟩
          exact ⟨line, rest, (ih line).2 ⟨he, hn⟩, ⟨rfl, rfl⟩, rfl⟩

/-- Nothing is split off exactly when there is no line feed. -/
theorem splitLine_eq_none_iff (bs : List UInt8) : splitLine bs = none ↔ 10 ∉ bs := by
  induction bs with
  | nil => simp [splitLine]
  | cons b bs ih =>
    by_cases h : b = 10
    · simp [splitLine, h]
    · simp [splitLine, h, ih, Ne.symm h]

example : (LineBuffer.drain ⟨[0x20, 0x61, 13, 10, 10, 0xFF, 10, 0x62]⟩) =
    ([.text "a", .text "", .invalid [0xFF]], ⟨[0x62]⟩) := by decide

end ChatGateway.Sse
