import Siderostat.Control.Auth
import Siderostat.Lib.Loop
import Siderostat.Lib.Text

/-!
# The bounded download

The part file is filled by one request after the other.  A full response replaces it, and so
does a partial one whose ETag is not the one that was asked for; any other partial response is
appended.
-/

namespace Siderostat.Manager

structure Credentials where
  bearer : Text

structure DownloadSpec where
  url : Text
  expectedSize : Nat
  sha256 : Text
  redirectAllowlist : List Text
  credentials : Option Credentials

structure HttpResponse where
  status : Nat
  etag : Option Text
  contentRange : Option Text
  finalUrl : Text
  body : Bytes

inductive HttpError where
  | transport (message : Text)
  | invalidResponse (message : Text)

def HttpError.display : HttpError → Text
  | .transport message => "transport: ".toList ++ message
  | .invalidResponse message => "invalid response: ".toList ++ message

inductive DownloadError where
  | rangeMismatch (message : Text)
  | incomplete (message : Text)
  | redirectRejected (message : Text)
  | credentialLeak (message : Text)
  | writeFailed (message : Text)
  | canceled
  | digestMismatch (message : Text)
  | other (message : Text)
deriving DecidableEq

structure DownloadProgress where
  expectedSize : Nat
  downloaded : Nat
  etag : Option Text
deriving DecidableEq

/-! ## What the world answers -/

/-- A write to the part file: it succeeds, the file cannot be opened, or it breaks off after
some bytes. -/
inductive WriteOutcome where
  | done
  | notOpened (message : Text)
  | broken (written : Nat) (message : Text)

/-- The transport is asked with the number of the call, the offset and the ETag.  The flag is
read at the start and before every call, and there is at most one write in a turn; the part is
read once, at the end. -/
structure World where
  getRange : Nat → Nat → Option Text → Except HttpError HttpResponse
  cancel : Nat → Bool
  write : Nat → WriteOutcome
  readError : Option Text
  notFound : Text
  sha256Hex : Bytes → Text

/-! ## Redirects -/

def origin (url : Text) : Text := ['/'].intercalate ((url.splitOn '/').take 3)

def validateRedirect (spec : DownloadSpec) (finalUrl : Text) : Except DownloadError Unit :=
  let sameOrigin := origin spec.url = origin finalUrl
  let allowed := spec.redirectAllowlist.any fun entry => origin entry = origin finalUrl
  if ¬sameOrigin ∧ allowed = false then
    .error (.redirectRejected
      ("redirect to ".toList ++ finalUrl ++ " not in allowlist".toList))
  else if ¬sameOrigin ∧ spec.credentials.isSome = true then
    .error (.credentialLeak ("credentials would be forwarded to ".toList ++ finalUrl))
  else .ok ()

/-! ## The loop -/

/-- The part file and the variables of the loop. -/
structure LoopState where
  file : Option Bytes
  progress : DownloadProgress
  start : Nat

/-- What is left behind, and the result. -/
structure Ended where
  state : LoopState
  result : Except DownloadError DownloadProgress

def LoopState.part (s : LoopState) : Bytes := s.file.getD []

def readPart (world : World) (file : Option Bytes) : Except DownloadError Bytes :=
  match world.readError with
  | some message => .error (.writeFailed message)
  | none =>
    match file with
    | none => .error (.writeFailed world.notFound)
    | some bytes => .ok bytes

def verify (world : World) (spec : DownloadSpec) (s : LoopState) : Ended :=
  match readPart world s.file with
  | .error error => ⟨s, .error error⟩
  | .ok bytes =>
    if world.sha256Hex bytes ≠ spec.sha256 then
      ⟨s, .error (.digestMismatch ("expected ".toList ++ spec.sha256 ++ " got ".toList ++
        world.sha256Hex bytes))⟩
    else ⟨s, .ok s.progress⟩

/-- The answer 416: the part may be complete already. -/
def rangeNotSatisfiable (world : World) (spec : DownloadSpec) (s : LoopState) : Ended :=
  let incomplete := DownloadError.incomplete "416 without valid completed part".toList
  if s.progress.downloaded = spec.expectedSize then
    match readPart world s.file with
    | .error error => ⟨s, .error error⟩
    | .ok bytes =>
      if world.sha256Hex bytes = spec.sha256 then ⟨s, .ok s.progress⟩
      else ⟨s, .error incomplete⟩
  else ⟨s, .error incomplete⟩

/-- The file after `contents` is written to it in the place of what comes after `kept`, and the
message of a failure. -/
def writePart (outcome : WriteOutcome) (file : Option Bytes) (kept contents : Bytes) :
    Option Bytes × Option Text :=
  match outcome with
  | .done => (some (kept ++ contents), none)
  | .notOpened message => (file, some message)
  | .broken written message => (some (kept ++ contents.take written), some message)

/-- The variables after the part has been written. -/
def LoopState.stored (s : LoopState) (file : Option Bytes) (downloaded : Nat)
    (etag : Option Text) : LoopState where
  file := file
  progress := { s.progress with downloaded := downloaded, etag := etag }
  start := downloaded

/-- The response is written behind `kept`; the loop goes on unless `last` says otherwise. -/
def store (world : World) (spec : DownloadSpec) (n : Nat) (s : LoopState) (kept : Bytes)
    (downloaded : Nat) (response : HttpResponse) (last : Bool) : Loop.Turn LoopState Ended :=
  match writePart (world.write n) s.file kept response.body with
  | (file, some message) => .done ⟨{ s with file := file }, .error (.writeFailed message)⟩
  | (file, none) =>
    if last = true then .done (verify world spec (s.stored file downloaded response.etag))
    else .again (s.stored file downloaded response.etag)

def expectedRange (start : Nat) : Text := "bytes ".toList ++ Text.decimal start ++ ['-']

def etagChanged (response asked : Option Text) : Bool :=
  match response, asked with
  | some new, some old => new != old
  | _, _ => false

def receive (world : World) (spec : DownloadSpec) (n : Nat) (s : LoopState)
    (response : HttpResponse) : Loop.Turn LoopState Ended :=
  if response.status = 416 then .done (rangeNotSatisfiable world spec s)
  else if response.status = 200 then
    store world spec n s [] response.body.length response
      (spec.expectedSize ≤ response.body.length)
  else if response.status = 206 then
    let range := response.contentRange.getD []
    if (expectedRange s.start).isPrefixOf range = false then
      .done ⟨s, .error (.rangeMismatch ("expected prefix ".toList ++ expectedRange s.start ++
        ", got ".toList ++ range))⟩
    else if etagChanged response.etag s.progress.etag = true then
      -- the body starts at the offset that was asked for, not at the first byte
      store world spec n s [] response.body.length response false
    else
      store world spec n s s.part (s.progress.downloaded + response.body.length) response
        (spec.expectedSize ≤ s.progress.downloaded + response.body.length)
  else
    .done ⟨s, .error (.other ("unexpected status ".toList ++ Text.decimal response.status))⟩

def turn (world : World) (spec : DownloadSpec) (n : Nat) (s : LoopState) :
    Loop.Turn LoopState Ended :=
  if world.cancel (n + 1) = true then .done ⟨s, .error .canceled⟩
  else
    match world.getRange n s.start s.progress.etag with
    | .error error => .done ⟨s, .error (.other error.display)⟩
    | .ok response =>
      match validateRedirect spec response.finalUrl with
      | .error error => .done ⟨s, .error error⟩
      | .ok () => receive world spec n s response

def LoopState.initial (spec : DownloadSpec) (file : Option Bytes) (resumeEtag : Option Text) :
    LoopState where
  file := file
  progress :=
    { expectedSize := spec.expectedSize
      downloaded := (file.map List.length).getD 0
      etag := resumeEtag }
  start := (file.map List.length).getD 0

/-- Before the loop: a part that has the expected size already is only checked. -/
def enter (world : World) (spec : DownloadSpec) (file : Option Bytes)
    (resumeEtag : Option Text) : Loop.Turn LoopState Ended :=
  let s := LoopState.initial spec file resumeEtag
  if world.cancel 0 = true then .done ⟨s, .error .canceled⟩
  else if s.progress.downloaded = spec.expectedSize ∧ 0 < s.progress.downloaded then
    .done (verify world spec s)
  else .again s

/-- The end of the download, if it makes fewer than `fuel` calls. -/
def downloadBounded (world : World) (spec : DownloadSpec) (file : Option Bytes)
    (resumeEtag : Option Text) (fuel : Nat) : Option Ended :=
  match enter world spec file resumeEtag with
  | .done ended => some ended
  | .again s => Loop.loop (turn world spec) fuel 0 s

/-- The variables of the loop before call `n`, if there is one. -/
def stateBefore (world : World) (spec : DownloadSpec) (file : Option Bytes)
    (resumeEtag : Option Text) (n : Nat) : Option LoopState :=
  (enter world spec file resumeEtag).next.bind fun s => Loop.before (turn world spec) s n

/-! ## What a turn does -/

/-- A partial response for the offset that was asked for. -/
def Accepted (s : LoopState) (response : HttpResponse) : Prop :=
  response.status = 206 ∧
    (expectedRange s.start).isPrefixOf (response.contentRange.getD []) = true

def Replaces (s : LoopState) (response : HttpResponse) : Prop :=
  response.status = 200 ∨
    Accepted s response ∧ etagChanged response.etag s.progress.etag = true

def Appends (s : LoopState) (response : HttpResponse) : Prop :=
  Accepted s response ∧ etagChanged response.etag s.progress.etag = false

/-- What stays of the part when the response is written, and the size it has then. -/
inductive Kept (s : LoopState) (response : HttpResponse) : Bytes → Nat → Prop
  | replaced (h : Replaces s response) : Kept s response [] response.body.length
  | appended (h : Appends s response) :
      Kept s response s.part (s.progress.downloaded + response.body.length)

inductive TurnRule (world : World) (spec : DownloadSpec) (n : Nat) (s : LoopState) :
    Loop.Turn LoopState Ended → Prop
  | stopped (error : DownloadError) : TurnRule world spec n s (.done ⟨s, .error error⟩)
  | checked (bytes : Bytes) (hfile : s.file = some bytes)
      (hdigest : world.sha256Hex bytes = spec.sha256) :
      TurnRule world spec n s (.done ⟨s, .ok s.progress⟩)
  | broken (response : HttpResponse) (kept : Bytes) (downloaded written : Nat) (message : Text)
      (hresponse : world.getRange n s.start s.progress.etag = .ok response)
      (hkept : Kept s response kept downloaded) :
      TurnRule world spec n s (.done ⟨{ s with file := some (kept ++ response.body.take written) },
        .error (.writeFailed message)⟩)
  | wentOn (response : HttpResponse) (kept : Bytes) (downloaded : Nat)
      (hresponse : world.getRange n s.start s.progress.etag = .ok response)
      (hkept : Kept s response kept downloaded)
      (hmore : response.status = 206 ∧ etagChanged response.etag s.progress.etag = true ∨
        downloaded < spec.expectedSize) :
      TurnRule world spec n s
        (.again (s.stored (some (kept ++ response.body)) downloaded response.etag))
  | ended (response : HttpResponse) (kept : Bytes) (downloaded : Nat)
      (hresponse : world.getRange n s.start s.progress.etag = .ok response)
      (hkept : Kept s response kept downloaded) :
      TurnRule world spec n s
        (.done (verify world spec (s.stored (some (kept ++ response.body)) downloaded
          response.etag)))

section Rules

variable {world : World} {spec : DownloadSpec} {n : Nat} {s : LoopState}

theorem readPart_ok {file : Option Bytes} {bytes : Bytes}
    (h : readPart world file = .ok bytes) : file = some bytes := by
  unfold readPart at h
  split at h
  · cases h
  · split at h
    · cases h
    · cases h
      rfl

theorem verify_rule (world : World) (spec : DownloadSpec) (s : LoopState) :
    (verify world spec s).state = s ∧ ∀ progress, (verify world spec s).result = .ok progress →
      progress = s.progress ∧
        ∃ bytes, s.file = some bytes ∧ world.sha256Hex bytes = spec.sha256 := by
  unfold verify
  split
  · exact ⟨rfl, fun _ h => by cases h⟩
  next bytes hread =>
    split
    · exact ⟨rfl, fun _ h => by cases h⟩
    next hdigest =>
      refine ⟨rfl, fun _ h => ?_⟩
      cases h
      exact ⟨rfl, bytes, readPart_ok hread, Decidable.not_not.mp hdigest⟩

theorem rangeNotSatisfiable_rule (world : World) (spec : DownloadSpec) (n : Nat)
    (s : LoopState) : TurnRule world spec n s (.done (rangeNotSatisfiable world spec s)) := by
  unfold rangeNotSatisfiable
  dsimp only
  split
  · split
    · exact .stopped _
    next bytes hread =>
      split
      next hdigest => exact .checked bytes (readPart_ok hread) hdigest
      · exact .stopped _
  · exact .stopped _

theorem store_rule {response : HttpResponse} {kept : Bytes} {downloaded : Nat} {last : Bool}
    (hresponse : world.getRange n s.start s.progress.etag = .ok response)
    (hkept : Kept s response kept downloaded)
    (hmore : last = false →
      response.status = 206 ∧ etagChanged response.etag s.progress.etag = true ∨
        downloaded < spec.expectedSize) :
    TurnRule world spec n s (store world spec n s kept downloaded response last) := by
  unfold store
  cases world.write n with
  | done =>
    show TurnRule world spec n s (if last = true then _ else _)
    by_cases hlast : last = true
    · rw [if_pos hlast]
      exact .ended response kept downloaded hresponse hkept
    · rw [if_neg hlast]
      exact .wentOn response kept downloaded hresponse hkept (hmore (Bool.eq_false_iff.mpr hlast))
  | notOpened message => exact .stopped _
  | broken written message =>
    exact .broken response kept downloaded written message hresponse hkept

theorem receive_rule {response : HttpResponse}
    (hresponse : world.getRange n s.start s.progress.etag = .ok response) :
    TurnRule world spec n s (receive world spec n s response) := by
  unfold receive
  dsimp only
  split
  · exact rangeNotSatisfiable_rule world spec n s
  · split
    next hfull =>
      refine store_rule hresponse (.replaced (Or.inl hfull)) fun hlast => Or.inr ?_
      exact Nat.lt_of_not_le (of_decide_eq_false hlast)
    · split
      next hpart =>
        split
        · exact .stopped _
        next hrange =>
          have haccepted : Accepted s response := ⟨hpart, eq_true_of_ne_false hrange⟩
          split
          next hchanged =>
            exact store_rule hresponse (.replaced (Or.inr ⟨haccepted, hchanged⟩)) fun _ =>
              Or.inl ⟨hpart, hchanged⟩
          next hchanged =>
            have hsame := Bool.eq_false_iff.mpr hchanged
            refine store_rule hresponse (.appended ⟨haccepted, hsame⟩) fun hlast => Or.inr ?_
            exact Nat.lt_of_not_le (of_decide_eq_false hlast)
      · exact .stopped _

theorem turn_rule (world : World) (spec : DownloadSpec) (n : Nat) (s : LoopState) :
    TurnRule world spec n s (turn world spec n s) := by
  unfold turn
  split
  · exact .stopped _
  · split
    · exact .stopped _
    next response hresponse =>
      split
      · exact .stopped _
      · exact receive_rule hresponse

end Rules

/-! ## When the download ends -/

/-- The response brings the part forward: a full one has the expected size, and a partial one
has a byte and the ETag that was asked for. -/
def Advances (spec : DownloadSpec) (s : LoopState) (response : HttpResponse) : Prop :=
  (response.status = 200 → spec.expectedSize ≤ response.body.length) ∧
    (response.status = 206 → response.body ≠ [] ∧
      etagChanged response.etag s.progress.etag = false)

theorem again_of_advances {world : World} {spec : DownloadSpec} {n : Nat} {s t : LoopState}
    (h : turn world spec n s = .again t)
    (hadvances : ∀ response, world.getRange n s.start s.progress.etag = .ok response →
      Advances spec s response) :
    s.progress.downloaded < t.progress.downloaded ∧
      t.progress.downloaded < spec.expectedSize := by
  have hrule := turn_rule world spec n s
  rw [h] at hrule
  cases hrule with
  | wentOn response kept downloaded hresponse hkept hmore =>
    obtain ⟨hfull, hpart⟩ := hadvances response hresponse
    have hless : downloaded < spec.expectedSize := by
      rcases hmore with ⟨hstatus, hchanged⟩ | hless
      · rw [(hpart hstatus).2] at hchanged
        exact Bool.noConfusion hchanged
      · exact hless
    refine ⟨?_, hless⟩
    show s.progress.downloaded < downloaded
    cases hkept with
    | replaced hreplaces =>
      rcases hreplaces with hstatus | ⟨haccepted, hchanged⟩
      · have hsize := hfull hstatus
        omega
      · rw [(hpart haccepted.1).2] at hchanged
        exact Bool.noConfusion hchanged
    | appended happends =>
      have hpos : 0 < response.body.length :=
        List.length_pos_of_ne_nil (hpart happends.1.1).1
      omega

/-- The download makes finitely many calls exactly when, from some call on, every response
brings the part forward. -/
theorem download_ends_iff (world : World) (spec : DownloadSpec) (file : Option Bytes)
    (resumeEtag : Option Text) :
    (∃ fuel ended, downloadBounded world spec file resumeEtag fuel = some ended) ↔
      ∃ first, ∀ n s response, first ≤ n → stateBefore world spec file resumeEtag n = some s →
        world.getRange n s.start s.progress.etag = .ok response → Advances spec s response := by
  unfold downloadBounded stateBefore
  cases enter world spec file resumeEtag with
  | done ended => exact ⟨fun _ => ⟨0, fun _ _ _ _ h => by cases h⟩, fun _ => ⟨0, ended, rfl⟩⟩
  | again s =>
    show (∃ fuel ended, Loop.loop (turn world spec) fuel 0 s = some ended) ↔
      ∃ first, ∀ n t response, first ≤ n → Loop.before (turn world spec) s n = some t →
        world.getRange n t.start t.progress.etag = .ok response → Advances spec t response
    rw [Loop.ends_iff]
    constructor
    · rintro ⟨last, hlast⟩
      refine ⟨last, fun n t response hn hbefore _ => ?_⟩
      rw [Loop.before_none_of_le hn hlast] at hbefore
      cases hbefore
    · rintro ⟨first, hadvances⟩
      -- what is missing of the expected size gets smaller with every call
      refine Loop.before_none_of_measure
        (fun t => spec.expectedSize - t.progress.downloaded) first fun n t u hn hbefore hturn => ?_
      obtain ⟨hgrown, hless⟩ := again_of_advances hturn fun response =>
        hadvances n t response hn hbefore
      omega

def plainSpec (expectedSize : Nat) (sha256 : Text) : DownloadSpec where
  url := "https://models.example.com/m.bin".toList
  expectedSize := expectedSize
  sha256 := sha256
  redirectAllowlist := []
  credentials := none

/-- A world without failures in which every call is answered with the same response. -/
def repeating (response : HttpResponse) : World where
  getRange := fun _ _ _ => .ok response
  cancel := fun _ => false
  write := fun _ => .done
  readError := none
  notFound := []
  sha256Hex := fun _ => []

def emptyFull : HttpResponse where
  status := 200
  etag := none
  contentRange := none
  finalUrl := "https://models.example.com/m.bin".toList
  body := []

/-- Asked for one byte, a server that answers 200 without a body is asked forever. -/
theorem empty_responses_never_end :
    (∀ n, (repeating emptyFull).cancel n = false) ∧
      ∀ fuel, downloadBounded (repeating emptyFull) (plainSpec 1 []) none none fuel = none := by
  refine ⟨fun _ => rfl, fun fuel => ?_⟩
  have hturn : ∀ n s, ∃ t, turn (repeating emptyFull) (plainSpec 1 []) n s = .again t :=
    fun _ _ => ⟨_, rfl⟩
  have hloop : ∀ fuel n s, Loop.loop (turn (repeating emptyFull) (plainSpec 1 [])) fuel n s =
      none := by
    intro fuel
    induction fuel with
    | zero => exact fun _ _ => rfl
    | succ fuel ih =>
      intro n s
      obtain ⟨t, ht⟩ := hturn n s
      rw [Loop.loop_again ht]
      exact ih (n + 1) t
  exact hloop fuel 0 _

end Siderostat.Manager
