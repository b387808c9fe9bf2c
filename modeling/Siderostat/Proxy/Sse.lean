import Siderostat.Control.Auth
import Siderostat.Lib.EventStream
import Siderostat.Lib.Json
import Siderostat.Lib.Utf8

/-!
# Framing of an event stream

The proxy hands a stream of server-sent events on event by event, so that an event that breaks
off is never seen by the client.
-/

namespace Siderostat.Proxy

open EventStream

def maxSseEventBytes : Nat := 1024 * 1024

/-! ## The buffer -/

structure SseFrameBuffer where
  bytes : Bytes
  cursor : Nat
  lineStart : Nat
  pendingLf : Bool
  deriving DecidableEq, Repr

namespace SseFrameBuffer

def empty : SseFrameBuffer where
  bytes := []
  cursor := 0
  lineStart := 0
  pendingLf := false

/-- A turn of the loop returns, or goes on with the cursor moved. -/
inductive Look where
  | returns (out : Option Bytes × SseFrameBuffer)
  | goesOn (buffer : SseFrameBuffer)

def look (eof : Bool) (buffer : SseFrameBuffer) (byte : UInt8) : Look :=
  if byte ≠ lf ∧ byte ≠ cr then .goesOn { buffer with cursor := buffer.cursor + 1 }
  else if byte = cr ∧ buffer.cursor + 1 = buffer.bytes.length ∧ eof = false ∧
      buffer.cursor ≠ buffer.lineStart then
    .returns (none, buffer)
  else
    let splitCrlf := byte == cr && buffer.cursor + 1 == buffer.bytes.length && !eof
    let stop := buffer.cursor +
      if byte = cr ∧ buffer.bytes[buffer.cursor + 1]? = some lf then 2 else 1
    if buffer.cursor = buffer.lineStart then
      .returns (some (buffer.bytes.take stop),
        { bytes := buffer.bytes.drop stop, cursor := 0, lineStart := 0, pendingLf := splitCrlf })
    else .goesOn { buffer with cursor := stop, lineStart := stop }

/-- The loop over the bytes from the cursor on.  Every turn moves the cursor, so as many turns
as there are bytes behind it are enough. -/
def seek (eof : Bool) : Nat → SseFrameBuffer → Option Bytes × SseFrameBuffer
  | 0, buffer => (none, buffer)
  | turns + 1, buffer =>
    match buffer.bytes[buffer.cursor]? with
    | none => (none, buffer)
    | some byte =>
      match look eof buffer byte with
      | .returns out => out
      | .goesOn buffer => seek eof turns buffer

def seekEvent (eof : Bool) (buffer : SseFrameBuffer) : Option Bytes × SseFrameBuffer :=
  seek eof (buffer.bytes.length - buffer.cursor) buffer

def takeEvent (eof : Bool) (buffer : SseFrameBuffer) : Option Bytes × SseFrameBuffer :=
  if buffer.pendingLf then
    if buffer.bytes = [] ∧ eof = false then (none, buffer)
    else if buffer.bytes.head? = some lf then
      (some (buffer.bytes.take 1),
        { buffer with bytes := buffer.bytes.drop 1, pendingLf := false })
    else seekEvent eof { buffer with pendingLf := false }
  else seekEvent eof buffer

def extend (buffer : SseFrameBuffer) (chunk : Bytes) : SseFrameBuffer :=
  { buffer with bytes := buffer.bytes ++ chunk }

end SseFrameBuffer

/-! ## Terminal events -/

def replaceCrlf : Text → Text
  | [] => []
  | c :: rest =>
    if c = '\r' ∧ rest.head? = some '\n' then replaceCrlf rest else c :: replaceCrlf rest

def replaceCr (t : Text) : Text := t.map fun c => if c = '\r' then '\n' else c

def lines : Text → List Text
  | [] => []
  | c :: rest =>
    if c = '\n' then [] :: lines rest
    else
      match lines rest with
      | [] => [[c]]
      | line :: more => (c :: line) :: more

def dataValue (line : Text) : Option Text :=
  if line = "data".toList then some []
  else if "data:".toList.isPrefixOf line then
    let value := line.drop "data:".toList.length
    some (if value.head? = some ' ' then value.drop 1 else value)
  else none

def isByteOrderMark (c : Char) : Bool := c == Char.ofNat 0xfeff

/-- The text of an event, without the byte order marks in front and with one kind of line
end. -/
def eventText (event : Bytes) : Text :=
  replaceCr (replaceCrlf ((Utf8.fromUtf8Lossy event).dropWhile isByteOrderMark))

def eventData (text : Text) : Text := ['\n'].intercalate ((lines text).filterMap dataValue)

/-- The document has a member `error` other than null. -/
def hasError (document : Json) : Bool :=
  match document.get "error".toList with
  | none => false
  | some .null => false
  | some _ => true

def isSseTerminalEvent (event : Bytes) : Bool :=
  let data := eventData (eventText event)
  data == "[DONE]".toList || (Json.read data).any hasError

/-! ## The stream -/

inductive IoErrorKind where
  | timedOut
  | unexpectedEof
  | other
  deriving DecidableEq, Repr

structure IoError where
  kind : IoErrorKind
  message : Text
  deriving DecidableEq, Repr

def oversizedEvent : IoError := ⟨.other, "SSE event exceeds size limit".toList⟩

def incompleteEvent : IoError := ⟨.unexpectedEof, "incomplete or oversized SSE event".toList⟩

def missingMarker : IoError := ⟨.unexpectedEof, "SSE completion marker missing".toList⟩

abbrev StreamItem := Except IoError Bytes

/-- The stream of events: the source that is still to be read, and what was read of it. -/
structure SseFrames where
  source : List StreamItem
  buffer : SseFrameBuffer
  eof : Bool
  done : Bool
  pendingError : Option IoError

namespace SseFrames

def new (source : List StreamItem) : SseFrames where
  source
  buffer := .empty
  eof := false
  done := false
  pendingError := none

/-- A turn of the loop ends the call, or goes on to read the source. -/
inductive Turn where
  | returns (out : Option (StreamItem × SseFrames))
  | reads (stream : SseFrames)

def Turn.out : Turn → Option (StreamItem × SseFrames)
  | .returns out => out
  | .reads _ => none

def turn (requireTerminal : Bool) (stream : SseFrames) : Turn :=
  match stream.buffer.takeEvent stream.eof with
  | (some event, buffer) =>
    if maxSseEventBytes < event.length then
      .returns (some (.error oversizedEvent, { stream with buffer, done := true }))
    else
      let terminal := requireTerminal && isSseTerminalEvent event
      .returns (some (.ok event, { stream with buffer, done := terminal }))
  | (none, buffer) =>
    match stream.pendingError with
    | some error =>
      .returns (some (.error error, { stream with buffer, done := true, pendingError := none }))
    | none =>
      if maxSseEventBytes < buffer.bytes.length ∨ stream.eof = true ∧ buffer.bytes ≠ [] then
        .returns (some (.error incompleteEvent, { stream with buffer, done := true }))
      else if stream.eof then
        .returns (if requireTerminal then
          some (.error missingMarker, { stream with buffer, done := true })
        else none)
      else .reads { stream with buffer }

/-- The loop.  After the end of the source or an error the next turn returns. -/
def loop (requireTerminal : Bool) (stream : SseFrames) :
    List StreamItem → Option (StreamItem × SseFrames)
  | [] =>
    match stream.turn requireTerminal with
    | .returns out => out
    | .reads stream => (turn requireTerminal { stream with eof := true }).out
  | .ok chunk :: rest =>
    match stream.turn requireTerminal with
    | .returns out => out
    | .reads stream =>
      loop requireTerminal { stream with source := rest, buffer := stream.buffer.extend chunk } rest
  | .error error :: rest =>
    match stream.turn requireTerminal with
    | .returns out => out
    | .reads stream =>
      (turn requireTerminal
        { stream with source := rest, eof := true, pendingError := some error }).out

/-- One call: the next item, or the end of the stream. -/
def poll (requireTerminal : Bool) (stream : SseFrames) : Option (StreamItem × SseFrames) :=
  if stream.done then none else stream.loop requireTerminal stream.source

/-- The pieces up to the end of the stream, and the error it ends with; `none` if the calls do
not suffice. -/
def drain (requireTerminal : Bool) : Nat → SseFrames → Option (List Bytes × Option IoError)
  | 0, _ => none
  | calls + 1, stream =>
    match stream.poll requireTerminal with
    | none => some ([], none)
    | some (.error error, _) => some ([], some error)
    | some (.ok piece, stream) =>
      (drain requireTerminal calls stream).map fun (pieces, error) => (piece :: pieces, error)

end SseFrames

end Siderostat.Proxy
