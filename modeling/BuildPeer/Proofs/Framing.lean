import BuildPeer.Proofs.Header
import BuildPeer.Proofs.Reading
import BuildPeer.Proofs.Text.Utf8

/-!
Frames in parts: a header line, a separator line and a body. A frame whose lines are both broken is
read back, whatever comes behind it, and the reader is left in front of that. What wrapping writes is
such a frame.
-/

namespace BuildPeer.Frame

def headerBytes (length : Nat) : Bytes :=
  Text.Utf8.encode (Header.line length) ++ [13]

theorem encode_line (length : Nat) : Text.Utf8.encode (Header.line length) =
    (Header.line length).map fun c => UInt8.ofNat c.toNat :=
  Text.Utf8.encode_ascii fun _ member => (Header.line_ascii member).2

theorem line_byte {length : Nat} {b : UInt8} (member : b ∈ Text.Utf8.encode (Header.line length)) :
    32 ≤ b.toNat := by
  rw [encode_line] at member
  obtain ⟨c, isChar, rfl⟩ := List.mem_map.mp member
  have range := Header.line_ascii isChar
  rw [Text.Utf8.byte_toNat (by omega)]
  exact range.1

theorem headerBytes_no_break (length : Nat) : lineBreak ∉ headerBytes length := by
  intro member
  rcases List.mem_append.mp member with inLine | inEnd
  · exact absurd (line_byte inLine) (by decide)
  · exact absurd inEnd (by decide)

theorem headerBytes_length {length : Nat} (small : length < Text.wordLimit) :
    (headerBytes length).length < maxLineLength := by
  have short := Header.line_length small
  simp only [headerBytes, encode_line, List.length_append, List.length_map, List.length_cons,
    List.length_nil, maxLineLength]
  omega

/-- A header line and a separator line, both without their line breaks, and a body as long as the
header says. -/
structure Parts (limit : Nat) (text : List Char) (header separator body : Bytes) : Prop where
  written : Text.Utf8.encode text = header ++ [lineBreak]
  declared : Header.parse text = .ok body.length
  fits : body.length ≤ limit
  headerOpen : lineBreak ∉ header
  headerShort : header.length < maxLineLength
  separatorOpen : lineBreak ∉ separator
  separatorShort : separator.length < maxLineLength

def joined (header separator body : Bytes) : Bytes :=
  header ++ [lineBreak] ++ (separator ++ [lineBreak] ++ body)

/-- A frame is read up to the last byte of its body, whatever comes behind it. -/
theorem Reader.Before.read_parts {limits : Limits} {text : List Char} {header separator body : Bytes}
    {rest : List Signal} {reader : Reader}
    (parts : Parts limits.maxFrameSize text header separator body)
    (before : Before limits (Signal.ofBytes (joined header separator body) ++ rest) reader) :
    ∃ after, reader.read = (.ok (some body), after) ∧ Before limits rest after := by
  have split : Signal.ofBytes (joined header separator body) ++ rest =
      Signal.ofBytes (header ++ [lineBreak]) ++
        (Signal.ofBytes (separator ++ [lineBreak]) ++ (Signal.ofBytes body ++ rest)) := by
    simp only [joined, Signal.ofBytes_append, List.append_assoc]
  rw [split] at before
  obtain ⟨opened, headerRead, line, before⟩ :=
    before.line_broken parts.headerOpen parts.headerShort
  have header : readHeader opened.limits opened.line = .ok body.length := by
    rw [line, before.limited, ← parts.written, readHeader, Text.Utf8.decode_encode]
    simp only [parts.declared, if_neg (Nat.not_lt.mpr parts.fits)]
  obtain ⟨separated, separatorRead, -, before⟩ :=
    before.line_broken parts.separatorOpen parts.separatorShort
  obtain ⟨after, bodyRead, bytes, before⟩ := before.body_whole body
  refine ⟨after, ?_, before⟩
  simp only [Reader.read, headerRead, header, Reader.readRest, separatorRead, bodyRead, bytes]

-- A wrapped body.

theorem wrap_joined (body : Bytes) : wrap body = joined (headerBytes body.length) [13] body := by
  have breaks : Text.Utf8.encode ['\r', '\n', '\r', '\n'] =
      [13] ++ [lineBreak] ++ ([13] ++ [lineBreak]) := rfl
  simp only [wrap, Header.render_line, Text.Utf8.encode_append, breaks, headerBytes, joined,
    List.append_assoc]

theorem wrap_parts {limit : Nat} {body : Bytes} (small : body.length < Text.wordLimit)
    (fits : body.length ≤ limit) :
    Parts limit (Header.line body.length ++ ['\r', '\n']) (headerBytes body.length) [13] body where
  written := by
    rw [Text.Utf8.encode_append, headerBytes, List.append_assoc]
    rfl
  declared := Header.parse_line small _ (List.all_eq_true.mp rfl)
  fits := fits
  headerOpen := headerBytes_no_break body.length
  headerShort := headerBytes_length small
  separatorOpen := by decide
  separatorShort := by decide

theorem Reader.Before.read_wrap {limits : Limits} {body : Bytes} {rest : List Signal}
    {reader : Reader} (before : Before limits (Signal.ofBytes (wrap body) ++ rest) reader)
    (small : body.length < Text.wordLimit) (fits : body.length ≤ limits.maxFrameSize) :
    ∃ after, reader.read = (.ok (some body), after) ∧ Before limits rest after := by
  rw [wrap_joined] at before
  exact before.read_parts (wrap_parts small fits)

end BuildPeer.Frame
