import Siderostat.Manager.Download

/-!
# The part file and the server's representations

An honest server sends parts of what it currently has, under the ETag of it.  The part file is
to be the beginning of one representation at all times.
-/

namespace Siderostat.Manager

/-- The representations, each under its ETag, and the one the server has at each call. -/
structure Server where
  representation : Text → Bytes
  current : Nat → Text

/-- A full response is the current representation, a partial one the bytes of it that its
Content-Range names. -/
structure Server.Sends (server : Server) (n : Nat) (response : HttpResponse) : Prop where
  full : response.status = 200 →
    response.etag = some (server.current n) ∧
      response.body = server.representation (server.current n)
  part : response.status = 206 →
    response.etag = some (server.current n) ∧
      ∃ first last rest, first ≤ last ∧
        last < (server.representation (server.current n)).length ∧
        response.contentRange = some ("bytes ".toList ++
          (Text.decimal first ++ '-' :: (Text.decimal last ++ '/' :: rest))) ∧
        response.body =
          ((server.representation (server.current n)).drop first).take (last + 1 - first)

def Honest (server : Server) (world : World) : Prop :=
  ∀ n start etag response, world.getRange n start etag = .ok response → server.Sends n response

/-- The part is the beginning of the representation that the progress names, and no longer than
expected. -/
structure PartOf (server : Server) (spec : DownloadSpec) (s : LoopState) : Prop where
  single : s.part = [] ∨
    ∃ etag, s.progress.etag = some etag ∧ s.part <+: server.representation etag
  bounded : s.part.length ≤ spec.expectedSize

/-- A response that does no harm to the part: none goes beyond the expected size, and one that
replaces the part with a range starts at the first byte. -/
structure Harmless (spec : DownloadSpec) (s : LoopState) (response : HttpResponse) : Prop where
  full : response.status = 200 → response.body.length ≤ spec.expectedSize
  restarted : Accepted s response → etagChanged response.etag s.progress.etag = true →
    s.start = 0 ∧ response.body.length ≤ spec.expectedSize
  continued : Accepted s response → etagChanged response.etag s.progress.etag = false →
    s.progress.downloaded + response.body.length ≤ spec.expectedSize

structure Counted (s : LoopState) : Prop where
  start : s.start = s.part.length
  downloaded : s.progress.downloaded = s.part.length

/-! ## Ranges -/

theorem takeWhile_decimal (n : Nat) (rest : Text) :
    (Text.decimal n ++ '-' :: rest).takeWhile (fun c => c != '-') = Text.decimal n := by
  have hdigits : ∀ c ∈ Text.decimal n, (c != '-') = true := by
    intro c hc
    refine bne_iff_ne.mpr fun heq => ?_
    rw [heq] at hc
    exact Text.dash_notMem_decimal n hc
  rw [List.takeWhile_append_of_pos hdigits, List.takeWhile_cons_of_neg (by decide),
    List.append_nil]

theorem first_of_expectedRange {start first : Nat} {rest : Text}
    (h : (expectedRange start).isPrefixOf ("bytes ".toList ++
      (Text.decimal first ++ '-' :: rest)) = true) : first = start := by
  obtain ⟨more, heq⟩ := List.isPrefixOf_iff_prefix.mp h
  unfold expectedRange at heq
  generalize "bytes ".toList = unit at heq
  rw [List.append_assoc, List.append_assoc] at heq
  have hrest := List.append_cancel_left heq
  have htexts := congrArg (List.takeWhile fun c => c != '-') hrest
  rw [takeWhile_decimal] at htexts
  have hstart : (Text.decimal start ++ (['-'] ++ more)).takeWhile (fun c => c != '-') =
      Text.decimal start := takeWhile_decimal start more
  rw [hstart] at htexts
  exact (Text.decimal_inj htexts).symm

theorem append_slice_starts {part whole : Bytes} (h : part <+: whole) (count : Nat) :
    part ++ (whole.drop part.length).take count <+: whole := by
  obtain ⟨rest, rfl⟩ := h
  rw [List.drop_left]
  refine ⟨rest.drop count, ?_⟩
  rw [List.append_assoc, List.take_append_drop]

/-! ## One response -/

section Step

variable {server : Server} {world : World} {spec : DownloadSpec} {n : Nat} {s : LoopState}
  {response : HttpResponse}

theorem Server.Sends.etag_eq (h : server.Sends n response) {kept : Bytes} {downloaded : Nat}
    (hkept : Kept s response kept downloaded) : response.etag = some (server.current n) := by
  cases hkept with
  | replaced hreplaces =>
    rcases hreplaces with hstatus | ⟨haccepted, -⟩
    · exact (h.full hstatus).1
    · exact (h.part haccepted.1).1
  | appended happends => exact (h.part happends.1.1).1

theorem Server.Sends.body_eq (h : server.Sends n response) (haccepted : Accepted s response) :
    ∃ count, response.body =
      ((server.representation (server.current n)).drop s.start).take count := by
  obtain ⟨-, first, last, rest, -, -, hrange, hbody⟩ := h.part haccepted.1
  have hprefixed := haccepted.2
  rw [hrange, Option.getD_some] at hprefixed
  rw [first_of_expectedRange hprefixed] at hbody
  exact ⟨last + 1 - s.start, hbody⟩

theorem PartOf.of_unchanged (h : PartOf server spec s)
    (hetag : response.etag = some (server.current n))
    (hsame : etagChanged response.etag s.progress.etag = false) :
    s.part <+: server.representation (server.current n) := by
  rcases h.single with hempty | ⟨etag, hprogress, hpart⟩
  · rw [hempty]
    exact List.nil_prefix
  · rw [hetag, hprogress] at hsame
    have heq : server.current n = etag := bne_eq_false_iff_eq.mp hsame
    rw [heq]
    exact hpart

theorem kept_spec (hsends : server.Sends n response) (hpart : PartOf server spec s)
    (hcounted : Counted s) (hharmless : Harmless spec s response) {kept : Bytes}
    {downloaded : Nat} (hkept : Kept s response kept downloaded) :
    kept ++ response.body <+: server.representation (server.current n) ∧
      downloaded = (kept ++ response.body).length ∧ downloaded ≤ spec.expectedSize := by
  have hetag := hsends.etag_eq hkept
  cases hkept with
  | replaced hreplaces =>
    rcases hreplaces with hstatus | ⟨haccepted, hchanged⟩
    · refine ⟨?_, rfl, hharmless.full hstatus⟩
      have hbody := (hsends.full hstatus).2
      exact ⟨[], by rw [List.nil_append, List.append_nil, hbody]⟩
    · obtain ⟨hzero, hsize⟩ := hharmless.restarted haccepted hchanged
      obtain ⟨count, hbody⟩ := hsends.body_eq haccepted
      refine ⟨?_, rfl, hsize⟩
      rw [List.nil_append, hbody, hzero, List.drop_zero]
      exact List.take_prefix count _
  | appended happends =>
    obtain ⟨count, hbody⟩ := hsends.body_eq happends.1
    refine ⟨?_, ?_, hharmless.continued happends.1 happends.2⟩
    · rw [hbody, hcounted.start]
      exact append_slice_starts (hpart.of_unchanged hetag happends.2) count
    · rw [List.length_append, hcounted.downloaded]

/-- What holds of the variables before every call. -/
structure Sane (server : Server) (spec : DownloadSpec) (s : LoopState) : Prop where
  part : PartOf server spec s
  counted : Counted s

theorem Sane.stored (h : Sane server spec s) (hsends : server.Sends n response)
    (hharmless : Harmless spec s response) {kept : Bytes} {downloaded : Nat}
    (hkept : Kept s response kept downloaded) :
    Sane server spec (s.stored (some (kept ++ response.body)) downloaded response.etag) := by
  obtain ⟨hstarts, hcount, hsize⟩ := kept_spec hsends h.part h.counted hharmless hkept
  refine ⟨⟨Or.inr ⟨server.current n, hsends.etag_eq hkept, hstarts⟩, ?_⟩, ⟨hcount, hcount⟩⟩
  show (kept ++ response.body).length ≤ spec.expectedSize
  omega

theorem Sane.again (h : Sane server spec s) (hhonest : Honest server world)
    (hharmless : ∀ response, world.getRange n s.start s.progress.etag = .ok response →
      Harmless spec s response) {t : LoopState} (hturn : turn world spec n s = .again t) :
    Sane server spec t := by
  have hrule := turn_rule world spec n s
  rw [hturn] at hrule
  cases hrule with
  | wentOn response kept downloaded hresponse hkept _ =>
    exact h.stored (hhonest n _ _ response hresponse) (hharmless response hresponse) hkept

/-- The state a download ends in.  Only a failed write can leave bytes that the stored ETag does
not name. -/
structure LeftBehind (server : Server) (world : World) (spec : DownloadSpec) (ended : Ended) :
    Prop where
  starts : ∃ etag, ended.state.part <+: server.representation etag
  bounded : ended.state.part.length ≤ spec.expectedSize
  part : (∀ message, ended.result ≠ .error (.writeFailed message)) →
    PartOf server spec ended.state
  verified : ∀ progress, ended.result = .ok progress → progress = ended.state.progress ∧
    ∃ bytes, ended.state.file = some bytes ∧ world.sha256Hex bytes = spec.sha256

theorem PartOf.starts (h : PartOf server spec s) :
    ∃ etag, s.part <+: server.representation etag := by
  rcases h.single with hempty | ⟨etag, -, hstarts⟩
  · exact ⟨[], by rw [hempty]; exact List.nil_prefix⟩
  · exact ⟨etag, hstarts⟩

theorem PartOf.leftBehind_error (h : PartOf server spec s) (error : DownloadError) :
    LeftBehind server world spec ⟨s, .error error⟩ where
  starts := h.starts
  bounded := h.bounded
  part := fun _ => h
  verified := fun _ hresult => by cases hresult

theorem PartOf.leftBehind_verify (h : PartOf server spec s) :
    LeftBehind server world spec (verify world spec s) := by
  obtain ⟨hstate, hresult⟩ := verify_rule world spec s
  refine ⟨?_, ?_, fun _ => ?_, fun progress hok => ?_⟩
  · rw [hstate]
    exact h.starts
  · rw [hstate]
    exact h.bounded
  · rw [hstate]
    exact h
  · rw [hstate]
    exact hresult progress hok

theorem Sane.done (h : Sane server spec s) (hhonest : Honest server world)
    (hharmless : ∀ response, world.getRange n s.start s.progress.etag = .ok response →
      Harmless spec s response) {ended : Ended} (hturn : turn world spec n s = .done ended) :
    LeftBehind server world spec ended := by
  have hrule := turn_rule world spec n s
  rw [hturn] at hrule
  cases hrule with
  | stopped error => exact h.part.leftBehind_error error
  | checked bytes hfile hdigest =>
    refine ⟨h.part.starts, h.part.bounded, fun _ => h.part, fun progress hok => ?_⟩
    cases hok
    exact ⟨rfl, bytes, hfile, hdigest⟩
  | broken response kept downloaded written message hresponse hkept =>
    -- the bytes that were written are still the beginning of what the server has now
    obtain ⟨hstarts, hcount, hsize⟩ := kept_spec (hhonest n _ _ response hresponse) h.part
      h.counted (hharmless response hresponse) hkept
    have hshort : kept ++ response.body.take written <+: kept ++ response.body :=
      ⟨response.body.drop written, by rw [List.append_assoc, List.take_append_drop]⟩
    refine ⟨⟨server.current n, hshort.trans hstarts⟩, ?_, fun hother => absurd rfl (hother message),
      fun _ hok => by cases hok⟩
    have hlength : (kept ++ response.body.take written).length ≤ downloaded :=
      hcount ▸ hshort.length_le
    exact Nat.le_trans hlength hsize
  | ended response kept downloaded hresponse hkept =>
    exact (h.stored (hhonest n _ _ response hresponse) (hharmless response hresponse)
      hkept).part.leftBehind_verify

end Step

/-! ## The whole download -/

theorem sane_initial {server : Server} {spec : DownloadSpec} {file : Option Bytes}
    {resumeEtag : Option Text}
    (hfile : file = none ∨
      ∃ etag, resumeEtag = some etag ∧ file.getD [] <+: server.representation etag)
    (hsize : (file.getD []).length ≤ spec.expectedSize) :
    Sane server spec (LoopState.initial spec file resumeEtag) := by
  have hcount : (file.map List.length).getD 0 = (file.getD []).length := by cases file <;> rfl
  refine ⟨⟨?_, hsize⟩, ⟨hcount, hcount⟩⟩
  rcases hfile with rfl | ⟨etag, hetag, hstarts⟩
  · exact Or.inl rfl
  · exact Or.inr ⟨etag, hetag, hstarts⟩

/-- With an honest server and harmless responses the part is, before every call and at the end,
the beginning of one representation and no longer than expected; and a download that succeeds
has the right digest. -/
theorem part_is_of_one_representation {server : Server} {world : World} {spec : DownloadSpec}
    {file : Option Bytes} {resumeEtag : Option Text} (hhonest : Honest server world)
    (hfile : file = none ∨
      ∃ etag, resumeEtag = some etag ∧ file.getD [] <+: server.representation etag)
    (hsize : (file.getD []).length ≤ spec.expectedSize)
    (hharmless : ∀ n s response, stateBefore world spec file resumeEtag n = some s →
      world.getRange n s.start s.progress.etag = .ok response → Harmless spec s response) :
    (∀ n s, stateBefore world spec file resumeEtag n = some s → PartOf server spec s) ∧
      ∀ fuel ended, downloadBounded world spec file resumeEtag fuel = some ended →
        LeftBehind server world spec ended := by
  have hinitial := sane_initial hfile hsize
  unfold downloadBounded
  unfold stateBefore at hharmless ⊢
  have henter : enter world spec file resumeEtag =
      .again (LoopState.initial spec file resumeEtag) ∨
      ∃ ended, enter world spec file resumeEtag = .done ended ∧
        LeftBehind server world spec ended := by
    unfold enter
    dsimp only
    split
    · exact Or.inr ⟨_, rfl, hinitial.part.leftBehind_error _⟩
    · split
      · exact Or.inr ⟨_, rfl, hinitial.part.leftBehind_verify⟩
      · exact Or.inl rfl
  rcases henter with henter | ⟨ended, henter, hleft⟩
  · rw [henter] at hharmless ⊢
    have hbefore : ∀ n s, Loop.before (turn world spec) (.initial spec file resumeEtag) n =
        some s → Sane server spec s := fun n s h =>
      Loop.invariant_before hinitial
        (fun n t u ht hsane hturn => hsane.again hhonest (hharmless n t · ht) hturn) h
    refine ⟨fun n s h => (hbefore n s h).part, fun fuel ended h => ?_⟩
    obtain ⟨n, s, hs, hturn⟩ := Loop.before_of_loop rfl h
    exact (hbefore n s hs).done hhonest (hharmless n s · hs) hturn
  · rw [henter]
    constructor
    · intro n s h
      cases h
    · intro fuel ended' h
      cases h
      exact hleft

/-- A server whose only representation has three bytes.  It sends what is missing. -/
def steady : Server where
  representation := fun _ => [1, 2, 3]
  current := fun _ => "v1".toList

def range (start : Nat) (etag : Text) (body : Bytes) : HttpResponse where
  status := 206
  etag := some etag
  contentRange := some ("bytes ".toList ++ (Text.decimal start ++ '-' ::
    (Text.decimal (start + body.length - 1) ++ '/' :: "3".toList)))
  finalUrl := "https://models.example.com/m.bin".toList
  body := body

def byteByByte : World where
  getRange := fun _ start _ =>
    if start < 3 then .ok (range start "v1".toList [UInt8.ofNat (start + 1)])
    else .error (.transport "no more".toList)
  cancel := fun _ => false
  write := fun _ => .done
  readError := none
  notFound := []
  sha256Hex := fun bytes => Text.decimal bytes.length

theorem honest_byteByByte : Honest steady byteByByte := by
  intro n start etag response h
  change (if start < 3 then _ else _) = _ at h
  split at h
  next hstart =>
    cases h
    refine ⟨fun hfull => ?_, fun _ => ⟨rfl, start, start, "3".toList, ?_⟩⟩
    · change (206 : Nat) = 200 at hfull
      omega
    · have hcases : start = 0 ∨ start = 1 ∨ start = 2 := by omega
      have hlast : start < (steady.representation (steady.current n)).length := hstart
      rcases hcases with rfl | rfl | rfl
      · exact ⟨Nat.le_refl 0, hlast, rfl, rfl⟩
      · exact ⟨Nat.le_refl 1, hlast, rfl, rfl⟩
      · exact ⟨Nat.le_refl 2, hlast, rfl, rfl⟩
  · cases h

theorem harmless_byteByByte (n : Nat) (s : LoopState) (response : HttpResponse)
    (hs : stateBefore byteByByte (plainSpec 3 "3".toList) (some [1]) (some "v1".toList) n = some s)
    (hresponse : byteByByte.getRange n s.start s.progress.etag = .ok response) :
    Harmless (plainSpec 3 "3".toList) s response := by
  rcases n with _ | _ | n
  · cases hs
    cases hresponse
    exact ⟨fun h => absurd h (by decide), fun _ h => absurd h (by decide), fun _ _ => by decide⟩
  · cases hs
    cases hresponse
    exact ⟨fun h => absurd h (by decide), fun _ h => absurd h (by decide), fun _ _ => by decide⟩
  · have hends : Loop.before (turn byteByByte (plainSpec 3 "3".toList))
        (.initial (plainSpec 3 "3".toList) (some [1]) (some "v1".toList)) 2 = none := rfl
    have hnone : stateBefore byteByByte (plainSpec 3 "3".toList) (some [1]) (some "v1".toList)
        (n + 2) = none := Loop.before_none_of_le (by omega) hends
    rw [hnone] at hs
    cases hs

theorem part_is_of_one_representation_byteByByte :
    (∃ ended, downloadBounded byteByByte (plainSpec 3 "3".toList) (some [1]) (some "v1".toList) 2 =
        some ended ∧ ended.state.file = some [1, 2, 3]) ∧
      (∀ n s, stateBefore byteByByte (plainSpec 3 "3".toList) (some [1]) (some "v1".toList) n =
        some s → PartOf steady (plainSpec 3 "3".toList) s) ∧
      ∀ fuel ended, downloadBounded byteByByte (plainSpec 3 "3".toList) (some [1])
        (some "v1".toList) fuel = some ended →
        LeftBehind steady byteByByte (plainSpec 3 "3".toList) ended :=
  ⟨⟨_, rfl, rfl⟩, part_is_of_one_representation honest_byteByByte
    (Or.inr ⟨"v1".toList, rfl, [2, 3], rfl⟩) (by decide) harmless_byteByByte⟩

/-! ## Where it fails -/

/-- The server has a new representation from the second call on. -/
def changing : Server where
  representation := fun etag => if etag = "v1".toList then [1, 2, 3] else [4, 5, 6]
  current := fun n => if n = 0 then "v1".toList else "v2".toList

def changed : World where
  getRange := fun n start _ =>
    if n = 0 then .ok (range 0 "v1".toList [1])
    else if n = 1 ∧ start = 1 then .ok (range 1 "v2".toList [5, 6])
    else .error (.transport "no more".toList)
  cancel := fun _ => false
  write := fun _ => .done
  readError := none
  notFound := []
  sha256Hex := fun _ => []

theorem honest_changed : Honest changing changed := by
  intro n start etag response h
  change (if n = 0 then _ else if n = 1 ∧ start = 1 then _ else _) = _ at h
  split at h
  next hn =>
    subst hn
    cases h
    refine ⟨fun hfull => absurd hfull (by decide), fun _ => ⟨rfl, 0, 0, "3".toList, ?_⟩⟩
    exact ⟨Nat.le_refl 0, by decide +kernel, rfl, by decide +kernel⟩
  · split at h
    next hn =>
      obtain ⟨rfl, rfl⟩ := hn
      cases h
      refine ⟨fun hfull => absurd hfull (by decide), fun _ => ⟨rfl, 1, 2, "3".toList, ?_⟩⟩
      exact ⟨by decide, by decide +kernel, rfl, by decide +kernel⟩
    · cases h

def wholeBody : HttpResponse := { emptyFull with etag := some "v1".toList, body := [1, 2, 3] }

theorem honest_wholeBody : Honest steady (repeating wholeBody) := by
  intro n start etag response h
  cases h
  refine ⟨fun _ => ⟨rfl, rfl⟩, fun hpart => ?_⟩
  change (200 : Nat) = 206 at hpart
  omega

/-- The range of the new representation becomes the whole part, which is then the beginning of
none; and a part of three bytes is written where one is expected. -/
theorem honest_responses_spoil_part :
    (Honest changing changed ∧
      ∃ s, stateBefore changed (plainSpec 3 []) none none 2 = some s ∧
        s.progress.etag = some "v2".toList ∧ s.part = [5, 6] ∧
        changing.representation "v2".toList = [4, 5, 6]) ∧
      Honest steady (repeating wholeBody) ∧
        ∃ ended, downloadBounded (repeating wholeBody) (plainSpec 1 []) none none 1 =
          some ended ∧ ended.state.part = [1, 2, 3] := by
  refine ⟨⟨honest_changed, _, rfl, rfl, rfl, ?_⟩, honest_wholeBody, _, rfl, rfl⟩
  decide +kernel

end Siderostat.Manager
