import TextTemplate.RenderError
import TextTemplate.Text.HtmlEscape
import TextTemplate.Value.Display

/-!
# Output

Rendering writes text piece by piece. A sink takes the chunks of text in order and may have a limit:
a chunk that would pass it is refused whole.

## Main definitions

- `Sink` — the chunks taken so far
- `Piece` — something to be written
- `Output.put` — the output with one more piece, unless its sink refuses it
-/

namespace TextTemplate

open Text

/-- The text that was there, the chunks taken since, last first, and the most UTF-8 bytes that the
whole text may have. -/
structure Sink where
  start : String := ""
  limit : Option Nat := none
  chunks : List String := []

namespace Sink

/-- The chunks taken, in order. -/
def log (s : Sink) : List String :=
  s.chunks.reverse

/-- All the text so far. -/
def text (s : Sink) : String :=
  s.start ++ String.join s.log

/-- The UTF-8 bytes of all the text so far. -/
def size (s : Sink) : Nat :=
  s.start.utf8ByteSize + s.chunks.foldr (fun chunk bytes => chunk.utf8ByteSize + bytes) 0

/-- Whether a chunk stays within the limit. -/
def accepts (s : Sink) (chunk : String) : Bool :=
  match s.limit with
  | none => true
  | some limit => s.size + chunk.utf8ByteSize ≤ limit

/-- The sink with one more chunk, unless it refuses it. -/
def write (s : Sink) (chunk : String) : Except RenderError Sink :=
  if s.accepts chunk then .ok { s with chunks := chunk :: s.chunks } else .error .write

@[simp]
theorem text_cons (s : Sink) (chunk : String) :
    ({ s with chunks := chunk :: s.chunks } : Sink).text = s.text ++ chunk := by
  simp [text, log, String.append_assoc]

theorem size_eq_utf8ByteSize_text (s : Sink) : s.size = s.text.utf8ByteSize := by
  obtain ⟨start, limit, chunks⟩ := s
  induction chunks with
  | nil => simp [size, text, log]
  | cons chunk chunks ih =>
    have htext : (⟨start, limit, chunk :: chunks⟩ : Sink).text =
        (⟨start, limit, chunks⟩ : Sink).text ++ chunk :=
      text_cons ⟨start, limit, chunks⟩ chunk
    rw [htext, String.utf8ByteSize_append, ← ih]
    simp only [size, List.foldr_cons]
    omega

/-- A chunk that is taken is the last of the log. -/
theorem log_write {s s' : Sink} {chunk : String} (h : s.write chunk = .ok s') :
    s'.log = s.log ++ [chunk] := by
  unfold write at h
  split at h
  · cases h
    simp [log]
  · simp at h

theorem text_write {s s' : Sink} {chunk : String} (h : s.write chunk = .ok s') :
    s'.text = s.text ++ chunk := by
  unfold write at h
  split at h
  · cases h
    simp
  · simp at h

end Sink

/-- Something to be written: a text that is safe as it is, a text that is escaped where the output
escapes, or a value in either way. -/
inductive Piece
  | safe (s : String)
  | escaped (s : String)
  | value (v : Value) (escaped : Bool)

/-- The chunk that a piece is written as. -/
def Piece.chunk (escape : Bool) : Piece → String
  | safe s => s
  | escaped s => if escape then escapeHtml s else s
  | value v isEscaped => if isEscaped && escape then escapeHtml v.display else v.display

/-- A sink, and whether HTML is escaped on the way to it. -/
structure Output where
  escape : Bool
  sink : Sink

/-- The output with one more piece, unless its sink refuses it. -/
def Output.put (out : Output) (piece : Piece) : Except RenderError Output :=
  (out.sink.write (piece.chunk out.escape)).map fun sink => { out with sink }

end TextTemplate
