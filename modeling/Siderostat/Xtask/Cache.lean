import Siderostat.Xtask.Tree

/-!
# The cache of file digests

A digest is reused as long as the metadata of the file stays the same, and after that if the size
and the quick content check still fit.
-/

namespace Siderostat.Xtask

open Checks

/-- What the system tells about a file. -/
structure Stat where
  dev : Nat
  ino : Nat
  len : Nat
  mtime : Int
  mtimeNsec : Nat
  nsec_lt : mtimeNsec < 1000000000
deriving DecidableEq

/-- A file whose metadata are unchanged has unchanged content. -/
structure Disk where
  content : Stat → Bytes
  length_eq : ∀ stat, (content stat).length = stat.len

structure FileMeta where
  deviceId : Nat
  inode : Nat
  size : Nat
  modifiedNanos : Nat
deriving DecidableEq

structure CachedDigest where
  info : FileMeta
  digest : Bytes
  sampleSha256 : Option Bytes

abbrev DigestCache := String → Option CachedDigest

inductive CacheError where
  | io
  | sample (error : SampleError)
  | metadataChanged
  | notCached
  | sizeDiffers
  | contentDiffers
  | legacyCache

/-- What a call finds under its path: at its first `stat`, where it reads the file, where it takes
the samples, and at its last `stat`. -/
structure Access where
  stat : Option Stat
  read : Option Stat
  sampled : Option Stat
  last : Option Stat

/-- A time before 1970 does not fit u128 and becomes 0. -/
def Stat.fileMeta (stat : Stat) : FileMeta where
  deviceId := stat.dev
  inode := stat.ino
  size := stat.len
  modifiedNanos := (stat.mtime * 1000000000 + stat.mtimeNsec).toNat

def fileMeta : Option Stat → Except CacheError FileMeta
  | none => .error .io
  | some stat => .ok stat.fileMeta

def DigestCache.insert (cache : DigestCache) (key : String) (entry : CachedDigest) : DigestCache :=
  fun other => if other = key then some entry else cache other

def ensureMetadataUnchanged (seen : Option Stat) (expected : FileMeta) :
    Except CacheError Unit := do
  let current ← fileMeta seen
  require (current = expected) .metadataChanged

section

variable (disk : Disk) (sha256 : Bytes → Bytes)

def hashFile : Option Stat → Except CacheError Bytes
  | none => .error .io
  | some stat => .ok (sha256Hex sha256 (disk.content stat))

def sampleFile (size : Nat) : Option Stat → Except CacheError Bytes
  | none => .error .io
  | some stat => (sampledSha256 sha256 (disk.content stat) size).mapError .sample

/-- The metadata are those of the entry; a missing sample is added. -/
def reuse (seen : Access) (key : String) (cache : DigestCache) (cached : CachedDigest)
    (info : FileMeta) : Except CacheError (Bytes × DigestCache) :=
  match cached.sampleSha256 with
  | some _ => .ok (cached.digest, cache)
  | none => do
    let sample ← sampleFile disk sha256 info.size seen.sampled
    ensureMetadataUnchanged seen.last info
    return (cached.digest, cache.insert key { cached with sampleSha256 := some sample })

def fingerprint (seen : Access) (key : String) (cache : DigestCache) (info : FileMeta) :
    Except CacheError (Bytes × DigestCache) := do
  let digest ← hashFile disk sha256 seen.read
  let sample ← sampleFile disk sha256 info.size seen.sampled
  ensureMetadataUnchanged seen.last info
  return (digest, cache.insert key { info, digest, sampleSha256 := some sample })

def sha256Cached (seen : Access) (key : String) (cache : DigestCache) :
    Except CacheError (Bytes × DigestCache) := do
  let info ← fileMeta seen.stat
  match cache key with
  | some cached =>
    if cached.info = info then reuse disk sha256 seen key cache cached info
    else fingerprint disk sha256 seen key cache info
  | none => fingerprint disk sha256 seen key cache info

def acceptSample (accept : Bool) (sample : Bytes) : Option Bytes → Except CacheError Unit
  | some expected => require (expected = sample) .contentDiffers
  | none => require (accept = true) .legacyCache

/-- The metadata are not those of the entry. -/
def refresh (seen : Access) (key : String) (cache : DigestCache) (accept : Bool)
    (cached : CachedDigest) (info : FileMeta) : Except CacheError (Bytes × DigestCache) := do
  require (cached.info.size = info.size) .sizeDiffers
  let sample ← sampleFile disk sha256 info.size seen.sampled
  ensureMetadataUnchanged seen.last info
  acceptSample accept sample cached.sampleSha256
  return (cached.digest,
    cache.insert key { info, digest := cached.digest, sampleSha256 := some sample })

def sha256FromCache (seen : Access) (key : String) (cache : DigestCache) (accept : Bool) :
    Except CacheError (Bytes × DigestCache) := do
  let info ← fileMeta seen.stat
  match cache key with
  | none => .error .notCached
  | some cached =>
    if cached.info = info then reuse disk sha256 seen key cache cached info
    else refresh disk sha256 seen key cache accept cached info

/-- A call; what it finds under its path is arbitrary, as the file may have been replaced or
touched before. -/
structure Call where
  cached : Bool
  key : String
  seen : Access

/-- Without the override of the operator. -/
def Call.outcome (call : Call) (cache : DigestCache) : Except CacheError (Bytes × DigestCache) :=
  if call.cached then sha256Cached disk sha256 call.seen call.key cache
  else sha256FromCache disk sha256 call.seen call.key cache false

/-- The cache changes where a call succeeds only. -/
def next (cache : DigestCache) (call : Call) : DigestCache :=
  match call.outcome disk sha256 cache with
  | .ok result => result.2
  | .error _ => cache

/-! ## What the entries describe -/

def sampleLimit : Nat := sampleChunkBytes * sampleCount

/-- The digests are those of one content, and a file with the recorded metadata has it. -/
structure Right (entry : CachedDigest) (content : Bytes) : Prop where
  size : entry.info.size = content.length
  digest : entry.digest = sha256Hex sha256 content
  sample : ∀ sample ∈ entry.sampleSha256,
    sampledSha256 sha256 content content.length = .ok sample
  current : ∀ stat : Stat, 0 ≤ stat.mtime → stat.fileMeta = entry.info →
    disk.content stat = content

def RightCache (cache : DigestCache) : Prop :=
  ∀ key entry, cache key = some entry → entry.info.size ≤ sampleLimit →
    ∃ content, Right disk sha256 entry content

end

/-- Nothing the call finds was modified before 1970, and a file that is the same at the last
`stat` was the same in between. -/
structure Call.Dated (call : Call) : Prop where
  stat : ∀ stat ∈ call.seen.stat, 0 ≤ stat.mtime
  last : ∀ stat ∈ call.seen.last, 0 ≤ stat.mtime
  steady : call.seen.last = call.seen.stat →
    call.seen.read = call.seen.stat ∧ call.seen.sampled = call.seen.stat

theorem Stat.fileMeta_inj {a b : Stat} (ha : 0 ≤ a.mtime) (hb : 0 ≤ b.mtime)
    (h : a.fileMeta = b.fileMeta) : a = b := by
  obtain ⟨dev, ino, len, mtime, nsec, hnsec⟩ := a
  obtain ⟨dev', ino', len', mtime', nsec', hnsec'⟩ := b
  simp only [fileMeta, FileMeta.mk.injEq] at h ha hb
  obtain ⟨rfl, rfl, rfl, htime⟩ := h
  have hseconds : mtime = mtime' := by omega
  have hnanos : nsec = nsec' := by omega
  subst hseconds hnanos
  rfl

section

variable {disk : Disk} {sha256 : Bytes → Bytes} {cache : DigestCache}

theorem rightCache_insert (h : RightCache disk sha256 cache) {key : String}
    {entry : CachedDigest} (hentry : entry.info.size ≤ sampleLimit →
      ∃ content, Right disk sha256 entry content) :
    RightCache disk sha256 (cache.insert key entry) := by
  intro other found hfound hsize
  unfold DigestCache.insert at hfound
  by_cases hkey : other = key
  · rw [if_pos hkey] at hfound
    cases hfound
    exact hentry hsize
  · rw [if_neg hkey] at hfound
    exact h other found hfound hsize

theorem sampleFile_eq_ok {size : Nat} {stat : Stat} {sample : Bytes}
    (h : sampleFile disk sha256 size (some stat) = .ok sample) :
    sampledSha256 sha256 (disk.content stat) size = .ok sample := by
  change (sampledSha256 sha256 (disk.content stat) size).mapError _ = _ at h
  cases hsampled : sampledSha256 sha256 (disk.content stat) size with
  | ok found =>
    rw [hsampled] at h
    exact congrArg Except.ok (Except.ok.inj h)
  | error error =>
    rw [hsampled] at h
    cases h

theorem content_of_sample (hsha : Function.Injective sha256) {a b : Bytes} {sample : Bytes}
    (hlength : a.length = b.length) (hsize : b.length ≤ sampleLimit)
    (ha : sampledSha256 sha256 a a.length = .ok sample)
    (hb : sampledSha256 sha256 b b.length = .ok sample) : a = b := by
  rw [hlength, sampledSha256_small sha256 a hsize] at ha
  rw [sampledSha256_small sha256 b hsize] at hb
  have hsame := hsha (encodeLowerHex_inj ((Except.ok.inj ha).trans (Except.ok.inj hb).symm))
  exact List.append_cancel_left hsame

variable {call : Call} {stat : Stat}

/-- The check at the end of a call: it has seen one file all along. -/
theorem last_of_ensure (hdated : call.Dated) (hstat : call.seen.stat = some stat)
    (h : ensureMetadataUnchanged call.seen.last stat.fileMeta = .ok ()) :
    call.seen.read = some stat ∧ call.seen.sampled = some stat := by
  obtain ⟨current, hcurrent, hsame⟩ := bind_eq_ok.mp h
  cases hlast : call.seen.last with
  | none =>
    rw [hlast] at hcurrent
    cases hcurrent
  | some last =>
    rw [hlast] at hcurrent
    cases hcurrent
    have heq := Stat.fileMeta_inj (hdated.last last hlast) (hdated.stat stat hstat)
      (require_eq_ok.mp hsame)
    rw [heq, ← hstat] at hlast
    rw [← hstat]
    exact hdated.steady hlast

theorem right_new (hstat : 0 ≤ stat.mtime) {digest sample : Bytes}
    (hdigest : digest = sha256Hex sha256 (disk.content stat))
    (hsample : sampledSha256 sha256 (disk.content stat) stat.len = .ok sample) :
    Right disk sha256 { info := stat.fileMeta, digest, sampleSha256 := some sample }
      (disk.content stat) where
  size := (disk.length_eq stat).symm
  digest := hdigest
  sample := by
    rintro _ ⟨⟩
    rwa [disk.length_eq stat]
  current := by
    intro other hother hsame
    rw [Stat.fileMeta_inj hother hstat hsame]

/-- What a call promises for the file it found first. -/
def Promise (disk : Disk) (sha256 : Bytes → Bytes) (stat : Stat)
    (outcome : Except CacheError (Bytes × DigestCache)) : Prop :=
  ∀ result, outcome = .ok result →
    RightCache disk sha256 result.2 ∧
      (stat.len ≤ sampleLimit → result.1 = sha256Hex sha256 (disk.content stat))

theorem reuse_promise (h : RightCache disk sha256 cache) (hdated : call.Dated)
    (hstat : call.seen.stat = some stat) {cached : CachedDigest}
    (hcached : cache call.key = some cached) (hinfo : cached.info = stat.fileMeta) :
    Promise disk sha256 stat
      (reuse disk sha256 call.seen call.key cache cached stat.fileMeta) := by
  intro result hresult
  have htime := hdated.stat stat hstat
  have hsmall (hsize : stat.len ≤ sampleLimit) :
      cached.digest = sha256Hex sha256 (disk.content stat) := by
    obtain ⟨content, hright⟩ := h call.key cached hcached (by rw [hinfo]; exact hsize)
    rw [hright.digest, hright.current stat htime hinfo.symm]
  unfold reuse at hresult
  cases hsample : cached.sampleSha256 with
  | some sample =>
    rw [hsample] at hresult
    cases hresult
    exact ⟨h, hsmall⟩
  | none =>
    rw [hsample] at hresult
    obtain ⟨sample, hsampled, hresult⟩ := bind_eq_ok.mp hresult
    obtain ⟨hlast, hresult⟩ := then_eq_ok.mp hresult
    cases hresult
    rw [(last_of_ensure hdated hstat hlast).2] at hsampled
    refine ⟨rightCache_insert h fun hsize => ⟨disk.content stat, ?_⟩, hsmall⟩
    rw [hinfo] at hsize
    rw [hinfo]
    exact right_new htime (hsmall hsize) (sampleFile_eq_ok hsampled)

theorem fingerprint_promise (h : RightCache disk sha256 cache) (hdated : call.Dated)
    (hstat : call.seen.stat = some stat) :
    Promise disk sha256 stat
      (fingerprint disk sha256 call.seen call.key cache stat.fileMeta) := by
  intro result hresult
  obtain ⟨digest, hdigest, hresult⟩ := bind_eq_ok.mp hresult
  obtain ⟨sample, hsampled, hresult⟩ := bind_eq_ok.mp hresult
  obtain ⟨hlast, hresult⟩ := then_eq_ok.mp hresult
  cases hresult
  obtain ⟨hread, hsample⟩ := last_of_ensure hdated hstat hlast
  rw [hread] at hdigest
  rw [hsample] at hsampled
  cases hdigest
  have hright := right_new (hdated.stat stat hstat) rfl (sampleFile_eq_ok hsampled)
  exact ⟨rightCache_insert h fun _ => ⟨_, hright⟩, fun _ => rfl⟩

theorem refresh_promise (hsha : Function.Injective sha256) (h : RightCache disk sha256 cache)
    (hdated : call.Dated) (hstat : call.seen.stat = some stat) {cached : CachedDigest}
    (hcached : cache call.key = some cached) :
    Promise disk sha256 stat
      (refresh disk sha256 call.seen call.key cache false cached stat.fileMeta) := by
  intro result hresult
  obtain ⟨hsize, hresult⟩ := then_eq_ok.mp hresult
  obtain ⟨sample, hsampled, hresult⟩ := bind_eq_ok.mp hresult
  obtain ⟨hlast, hresult⟩ := then_eq_ok.mp hresult
  obtain ⟨haccept, hresult⟩ := then_eq_ok.mp hresult
  cases hresult
  rw [(last_of_ensure hdated hstat hlast).2] at hsampled
  have hnew := sampleFile_eq_ok hsampled
  have hsmall (hlen : stat.len ≤ sampleLimit) :
      cached.digest = sha256Hex sha256 (disk.content stat) := by
    have hlength : cached.info.size = (disk.content stat).length :=
      (require_eq_ok.mp hsize).trans (disk.length_eq stat).symm
    rw [← disk.length_eq stat] at hlen
    obtain ⟨content, hright⟩ := h call.key cached hcached (hlength ▸ hlen)
    cases hold : cached.sampleSha256 with
    | none =>
      rw [hold] at haccept
      exact absurd (require_eq_ok.mp haccept) (by decide)
    | some expected =>
      rw [hold] at haccept
      have hexpected := hright.sample expected hold
      rw [require_eq_ok.mp haccept] at hexpected
      rw [hright.digest, content_of_sample hsha (hright.size.symm.trans hlength) hlen hexpected
        (by rw [disk.length_eq stat]; exact hnew)]
  exact ⟨rightCache_insert h fun hlen => ⟨_, right_new (hdated.stat stat hstat) (hsmall hlen) hnew⟩,
    hsmall⟩

theorem outcome_promise (hsha : Function.Injective sha256) (h : RightCache disk sha256 cache)
    (hdated : call.Dated) (hstat : call.seen.stat = some stat) :
    Promise disk sha256 stat (call.outcome disk sha256 cache) := by
  unfold Call.outcome sha256Cached sha256FromCache
  rw [hstat]
  simp only [fileMeta]
  cases hcached : cache call.key with
  | none =>
    cases call.cached with
    | true => exact fingerprint_promise h hdated hstat
    | false =>
      intro result hresult
      cases hresult
  | some cached =>
    by_cases hinfo : cached.info = stat.fileMeta
    · have hreuse := reuse_promise h hdated hstat hcached hinfo
      cases call.cached with
      | true => simpa [Promise, bind, Except.bind, hinfo] using hreuse
      | false => simpa [Promise, bind, Except.bind, hinfo] using hreuse
    · cases call.cached with
      | true =>
        simpa [Promise, bind, Except.bind, hinfo] using fingerprint_promise h hdated hstat
      | false =>
        simpa [Promise, bind, Except.bind, hinfo] using
          refresh_promise hsha h hdated hstat hcached

theorem next_right (hsha : Function.Injective sha256) (h : RightCache disk sha256 cache)
    (hdated : call.Dated) : RightCache disk sha256 (next disk sha256 cache call) := by
  unfold next
  cases houtcome : call.outcome disk sha256 cache with
  | error error => exact h
  | ok result =>
    cases hstat : call.seen.stat with
    | none =>
      unfold Call.outcome sha256Cached sha256FromCache at houtcome
      rw [hstat] at houtcome
      cases hkind : call.cached <;> simp [hkind, fileMeta, bind, Except.bind] at houtcome
    | some stat => exact (outcome_promise hsha h hdated hstat result houtcome).1

end

/-- Every digest a run returns for a file of at most 4 MiB is that of its content, and the two
digests of an entry describe one content, as long as no file is dated before 1970. -/
theorem cached_digests_current (disk : Disk) {sha256 : Bytes → Bytes}
    (hsha : Function.Injective sha256) (cache : DigestCache) (h : RightCache disk sha256 cache)
    (calls : List Call)
    (hdated : Machine.Guarded (fun _ call => call.Dated) (next disk sha256) cache calls) :
    (∀ state ∈ Machine.visited (next disk sha256) cache calls, RightCache disk sha256 state) ∧
    ∀ p ∈ Machine.steps (next disk sha256) cache calls, ∀ stat ∈ p.2.seen.stat,
      stat.len ≤ sampleLimit → ∀ result, p.2.outcome disk sha256 p.1 = .ok result →
        result.1 = sha256Hex sha256 (disk.content stat) := by
  refine ⟨Machine.invariant_visited (fun _ _ hs hc => next_right hsha hs hc) h hdated, ?_⟩
  intro p hp stat hstat hsize result hresult
  have hright := Machine.invariant_steps (fun _ _ hs hc => next_right hsha hs hc) h hdated p hp
  exact (outcome_promise hsha hright (hdated p hp) hstat result hresult).2 hsize

/-! ## Files of one byte -/

/-- The byte was written at time -1. -/
def rewritten : Disk where
  content stat := List.replicate stat.len (if stat.mtime < -1 then 1 else 2)
  length_eq _ := List.length_replicate

def oneByte (mtime : Int) : Stat where
  dev := 1
  ino := 1
  len := 1
  mtime
  mtimeNsec := 0
  nsec_lt := by decide

def callAt (cached : Bool) (mtime : Int) : Call where
  cached
  key := "model"
  seen := ⟨oneByte mtime, oneByte mtime, oneByte mtime, oneByte mtime⟩

/-- The file is touched between the calls. -/
theorem cached_digests_current_touched :
    ∃ result, (callAt false 6).outcome rewritten id
        (next rewritten id (fun _ => none) (callAt true 5)) = .ok result ∧
      result.1 = sha256Hex id (rewritten.content (oneByte 6)) := by
  have hdated : Machine.Guarded (fun _ call => call.Dated) (next rewritten id) (fun _ => none)
      [callAt true 5, callAt false 6] := by
    rintro p (_ | ⟨_, _ | ⟨_, ⟨⟩⟩⟩)
    · exact ⟨by rintro _ ⟨⟩; decide, by rintro _ ⟨⟩; decide, fun _ => ⟨rfl, rfl⟩⟩
    · exact ⟨by rintro _ ⟨⟩; decide, by rintro _ ⟨⟩; decide, fun _ => ⟨rfl, rfl⟩⟩
  have hrun := cached_digests_current rewritten Function.injective_id _
    (fun _ _ hentry => by cases hentry) _ hdated
  exact ⟨_, rfl, hrun.2 _ (List.mem_cons_of_mem _ List.mem_cons_self) _ rfl (by decide) _ rfl⟩

/-- Two times before 1970 look the same, and the digest of the earlier content is returned. -/
theorem digest_of_earlier_content :
    rewritten.content (oneByte (-2)) ≠ rewritten.content (oneByte (-1)) ∧
    ∃ result, (callAt false (-1)).outcome rewritten id
        (next rewritten id (fun _ => none) (callAt true (-2))) = .ok result ∧
      result.1 = sha256Hex id (rewritten.content (oneByte (-2))) ∧
      result.1 ≠ sha256Hex id (rewritten.content (oneByte (-1))) :=
  ⟨by decide, _, rfl, by decide, by decide⟩

/-! ## What the quick content check sees -/

theorem eq_of_flatMap_eq {offsets : List Nat} {f g : Nat → Bytes}
    (hlength : ∀ offset, (f offset).length = (g offset).length)
    (h : offsets.flatMap f = offsets.flatMap g) : ∀ offset ∈ offsets, f offset = g offset := by
  induction offsets with
  | nil => exact nofun
  | cons offset rest ih =>
    rw [List.flatMap_cons, List.flatMap_cons] at h
    obtain ⟨hfirst, hrest⟩ := List.append_inj h (hlength offset)
    exact List.forall_mem_cons.mpr ⟨hfirst, ih hrest⟩

/-- The quick check takes two large files of one size for the same exactly when they agree in
every window. -/
theorem sampledSha256_eq_iff {sha256 : Bytes → Bytes} (hsha : Function.Injective sha256)
    {a b : Bytes} (hlength : a.length = b.length) (hsize : sampleLimit < b.length)
    (hmax : b.length ≤ Word.u64Max) :
    sampledSha256 sha256 a a.length = sampledSha256 sha256 b b.length ↔
      ∀ offset ∈ sampleOffsets b.length,
        (a.drop offset).take sampleChunkBytes = (b.drop offset).take sampleChunkBytes := by
  rw [sampledSha256_large sha256 (hlength ▸ hsize) (hlength ▸ hmax),
    sampledSha256_large sha256 hsize hmax, hlength]
  refine ⟨fun h => ?_, fun h => ?_⟩
  · have hwindows := List.append_cancel_left (hsha (encodeLowerHex_inj (Except.ok.inj h)))
    have hequal := eq_of_flatMap_eq (fun offset => by simp [hlength]) hwindows
    exact fun offset hmem => List.append_cancel_left (hequal offset hmem)
  · rw [List.flatMap_congr fun offset hmem => congrArg (toLeBytes offset ++ ·) (h offset hmem)]

theorem sampledSha256_eq_iff_replicate :
    let zeros : Bytes := List.replicate 4194305 0
    let ones : Bytes := List.replicate 4194305 1
    sampledSha256 id zeros zeros.length ≠ sampledSha256 id ones ones.length := by
  intro zeros ones h
  have hlength : ones.length = 4194305 := List.length_replicate
  have hfirst : 0 ∈ sampleOffsets ones.length := List.mem_map.mpr ⟨0, by decide, by simp [offsetAt]⟩
  have hwindow := (sampledSha256_eq_iff Function.injective_id
    (List.length_replicate.trans hlength.symm) (hlength ▸ by decide) (hlength ▸ by decide)).mp h
    0 hfirst
  rw [List.drop_zero, List.drop_zero, List.take_replicate, List.take_replicate,
    List.replicate_inj] at hwindow
  exact absurd hwindow.2 (by decide)

end Siderostat.Xtask
