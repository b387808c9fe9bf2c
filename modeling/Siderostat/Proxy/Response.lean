import Siderostat.Lib.Machine
import Siderostat.Proxy.Headers
import Siderostat.Proxy.Sse

/-!
# The body of a response on its way to the client

Three streams, one inside the other.  The innermost is the response from upstream, with an error
in the place of a wait that takes too long.
-/

namespace Siderostat.Proxy

open Http

/-! ## The response from upstream -/

/-- What becomes of a wait for the next bytes. -/
inductive UpstreamEvent where
  | chunk (bytes : Bytes)
  | error (message : Text)
  | idle
  deriving DecidableEq, Repr

def idleTimeout : IoError := ⟨.timedOut, "upstream stream idle timeout".toList⟩

/-- The stream ends with an error at the first wait that takes too long. -/
def withIdleTimeout : List UpstreamEvent → List StreamItem
  | [] => []
  | .chunk bytes :: rest => .ok bytes :: withIdleTimeout rest
  | .error message :: rest => .error ⟨.other, message⟩ :: withIdleTimeout rest
  | .idle :: _ => [.error idleTimeout]

structure ModeAwarePreparedResponse where
  status : Nat
  headers : HeaderMap
  stream : List UpstreamEvent
  firstChunk : Option Bytes

def ModeAwarePreparedResponse.source (prepared : ModeAwarePreparedResponse) : List StreamItem :=
  withIdleTimeout ((prepared.firstChunk.map .chunk).toList ++ prepared.stream)

namespace Header

def contentType : HeaderName := .of "content-type"

def contentEncoding : HeaderName := .of "content-encoding"

end Header

/-- The text up to the parameters, without regard to case. -/
def mediaType (value : Bytes) : Bytes := toAsciiLowercase (trim (value.takeWhile (· != 59)))

def isSse (completion : Bool) (status : Nat) (headers : HeaderMap) : Bool :=
  completion && !([204, 205, 304].contains status) &&
    (((headers.get Header.contentType).bind toStr).any fun value =>
      mediaType value == ascii "text/event-stream") &&
    (headers.getAll Header.contentEncoding).all fun value =>
      (toStr value).any fun encoding => toAsciiLowercase (trim encoding) == ascii "identity"

def isSuccess (status : Nat) : Bool := 200 ≤ status && status < 300

def copyResponseHeaders (source : HeaderMap) : HeaderMap :=
  let connectionTokens := connectionHeaderTokens source
  source.retain fun name => !isHopByHop name connectionTokens

/-! ## The stream to the client -/

inductive StreamFailure where
  | interrupted
  | timedOut
  | incomplete
  | broken
  deriving DecidableEq, Repr

def StreamFailure.payload : StreamFailure → Bytes
  | .interrupted => ascii "\n\ndata: \x7b\"error\":\x7b\"message\":\"" ++
      ascii "Stream interrupted by runtime restart\",\"type\":\"service_unavailable\"," ++
      ascii "\"code\":\"stream_interrupted\"\x7d\x7d\n\n"
  | .timedOut => ascii "\n\ndata: \x7b\"error\":\x7b\"message\":\"Upstream stream timed out\"," ++
      ascii "\"type\":\"upstream_timeout\",\"code\":\"upstream_stream_timeout\"\x7d\x7d\n\n"
  | .incomplete => ascii "\n\ndata: \x7b\"error\":\x7b\"message\":\"" ++
      ascii "Upstream stream ended without completion\",\"type\":\"upstream_error\"," ++
      ascii "\"code\":\"upstream_stream_incomplete\"\x7d\x7d\n\n"
  | .broken => ascii "\n\ndata: \x7b\"error\":\x7b\"message\":\"Upstream stream interrupted\"," ++
      ascii "\"type\":\"upstream_error\",\"code\":\"upstream_stream_interrupted\"\x7d\x7d\n\n"

def StreamFailure.ofError (error : IoError) : StreamFailure :=
  match error.kind with
  | .timedOut => .timedOut
  | .unexpectedEof => .incomplete
  | .other => .broken

def interruptedItem (isSse : Bool) : StreamItem :=
  if isSse then .ok StreamFailure.interrupted.payload
  else .error ⟨.other, "stream interrupted by runtime restart".toList⟩

def failedItem (isSse : Bool) (error : IoError) : StreamItem :=
  if isSse then .ok (StreamFailure.ofError error).payload
  else if error.kind = .timedOut then .error error
  else .error ⟨.other, "upstream stream error".toList⟩

/-- The stream that is read: event by event, or as it comes. -/
inductive ResponseStream where
  | framed (frames : SseFrames)
  | plain (source : List StreamItem)

namespace ResponseStream

def next (requireTerminal : Bool) : ResponseStream → Option (StreamItem × ResponseStream)
  | .framed frames =>
    (frames.poll requireTerminal).map fun out => (out.1, .framed out.2)
  | .plain [] => none
  | .plain (item :: rest) => some (item, .plain rest)

def isDone : ResponseStream → Bool
  | .framed frames => frames.done
  | .plain _ => false

end ResponseStream

/-- The outermost stream, with the permit of the request and the flag that a restart raises. -/
structure ClientStream where
  upstream : ResponseStream
  permit : Bool
  interrupted : Bool
  done : Bool

namespace ClientStream

/-- The last item.  The rest of the response is not read, and the permit is given back. -/
def finish (stream : ClientStream) (item : StreamItem) : StreamItem × ClientStream :=
  (item, { stream with upstream := .plain [], permit := false, done := true })

def poll (isSse requireTerminal : Bool) (stream : ClientStream) :
    Option (StreamItem × ClientStream) :=
  if stream.done then none
  else if stream.interrupted then some (stream.finish (interruptedItem isSse))
  else
    match stream.upstream.next requireTerminal with
    | none => none
    | some (.ok chunk, upstream) => some (.ok chunk, { stream with upstream })
    | some (.error error, _) => some (stream.finish (failedItem isSse error))

end ClientStream

structure ClientResponse where
  status : Nat
  headers : HeaderMap
  isSse : Bool
  requireTerminal : Bool
  stream : ClientStream

def buildModeAwareResponse (interrupted : Bool) (requestId : Bytes)
    (prepared : ModeAwarePreparedResponse) (completion : Bool) : ClientResponse :=
  let sse := isSse completion prepared.status prepared.headers
  let headers := copyResponseHeaders prepared.headers
  { status := prepared.status
    headers := insertRequestId
      (if sse then headers.remove Header.contentLength else headers) requestId
    isSse := sse
    requireTerminal := completion && isSuccess prepared.status
    stream :=
      { upstream := if sse then .framed (.new prepared.source) else .plain prepared.source
        permit := true
        interrupted
        done := false } }

/-! ## What the client receives -/

/-- A restart is announced, or the client asks for more. -/
inductive Happening where
  | raise
  | poll
  deriving DecidableEq, Repr

structure Delivery where
  stream : ClientStream
  sent : Bytes
  error : Option IoError
  ended : Bool

namespace Delivery

def new (stream : ClientStream) : Delivery where
  stream
  sent := []
  error := none
  ended := false

def next (isSse requireTerminal : Bool) (delivery : Delivery) : Happening → Delivery
  | .raise => { delivery with stream := { delivery.stream with interrupted := true } }
  | .poll =>
    if delivery.ended then delivery
    else
      match delivery.stream.poll isSse requireTerminal with
      | none => { delivery with ended := true }
      | some (.ok piece, stream) => { delivery with stream, sent := delivery.sent ++ piece }
      | some (.error error, stream) => { delivery with stream, error := some error, ended := true }

end Delivery

namespace ClientResponse

def next (response : ClientResponse) : Delivery → Happening → Delivery :=
  Delivery.next response.isSse response.requireTerminal

/-- The delivery of a response, after some happenings. -/
def deliver (response : ClientResponse) (happenings : List Happening) : Delivery :=
  Machine.run response.next (.new response.stream) happenings

end ClientResponse

end Siderostat.Proxy
