/-
# Making an index configuration

`config.c` (490-657) turns a user's `struct uds_configuration` into the index's
`struct configuration`.  `compute_memory_sizes` picks the chapters and record pages of
the volume from the memory size: the three small sizes and `1..UDS_MEMORY_CONFIG_MAX`
gigabytes, and each of them again as a reduced size, which gives up one chapter; a sparse
index has ten times the chapters, nine and a half times the base of them sparse.
`normalize_zone_count` and `normalize_read_threads` clamp the requested zone and read
thread counts, and `make_configuration` puts them together with `make_geometry` and the
defaults.

The constants come from headers that are not in the sources, so they are parameters
(`IndexConstants`); the arithmetic is on `unsigned int`, wrapping as in C.  `make_geometry`
is not in the sources either: it fails, or builds a geometry holding the values it is
given (`makeGeometry`).

* `makeConfiguration_roundTrip`: the configuration block `write_config_contents` writes
  for a configuration `make_configuration` made is accepted by `validate_config_contents`
  against that configuration and gives it back unchanged, at every version.
-/

import Kvdo.Uds.Config

namespace Kvdo

/-- The constants `compute_memory_sizes`, `normalize_zone_count`,
`normalize_read_threads` and `make_configuration` read, named after their macros
(`UDS_MEMORY_CONFIG_256MB`, ..., `DEFAULT_BYTES_PER_PAGE`). -/
structure IndexConstants where
  udsMemoryConfig256MB : UInt32
  udsMemoryConfig512MB : UInt32
  udsMemoryConfig768MB : UInt32
  udsMemoryConfigMax : UInt32
  udsMemoryConfigReduced : UInt32
  udsMemoryConfigReduced256MB : UInt32
  udsMemoryConfigReduced512MB : UInt32
  udsMemoryConfigReduced768MB : UInt32
  udsMemoryConfigReducedMax : UInt32
  defaultChaptersPerVolume : UInt32
  smallRecordPagesPerChapter : UInt32
  defaultRecordPagesPerChapter : UInt32
  maxZones : UInt32
  defaultVolumeReadThreads : UInt32
  maxVolumeReadThreads : UInt32
  defaultCacheChapters : UInt32
  defaultVolumeIndexMeanDelta : UInt32
  defaultSparseSampleRate : UInt32
  defaultBytesPerPage : UInt64
  deriving DecidableEq, Repr

/-- The fields of a `struct uds_configuration` that `make_configuration` reads. -/
structure UdsConfiguration where
  memorySize : UInt32
  sparse : Bool
  zoneCount : UInt32
  readThreads : UInt32
  nonce : UInt64
  name : String
  deriving DecidableEq, Repr

/-- What `compute_memory_sizes` writes through its three pointers. -/
structure MemorySizes where
  chaptersPerVolume : UInt32
  recordPagesPerChapter : UInt32
  sparseChaptersPerVolume : UInt32
  deriving DecidableEq, Repr

/-- A `struct configuration` as `make_configuration` fills it: the fields the
configuration block stores, and the zone count, read threads and name it does not. -/
structure IndexConfiguration where
  stored : Configuration
  zoneCount : UInt32
  readThreads : UInt32
  name : String
  deriving DecidableEq, Repr

section Make

variable (k : IndexConstants)

/-- The branches of `compute_memory_sizes`: `reduced_chapters`, `base_chapters` and
`*record_pages_per_chapter` for a memory size it knows. -/
def memorySizeBase (memGb : UInt32) : Option (UInt32 × UInt32 × UInt32) :=
  if memGb = k.udsMemoryConfig256MB then
    some (0, k.defaultChaptersPerVolume, k.smallRecordPagesPerChapter)
  else if memGb = k.udsMemoryConfig512MB then
    some (0, k.defaultChaptersPerVolume, 2 * k.smallRecordPagesPerChapter)
  else if memGb = k.udsMemoryConfig768MB then
    some (0, k.defaultChaptersPerVolume, 3 * k.smallRecordPagesPerChapter)
  else if 1 ≤ memGb ∧ memGb ≤ k.udsMemoryConfigMax then
    some (0, memGb * k.defaultChaptersPerVolume, k.defaultRecordPagesPerChapter)
  else if memGb = k.udsMemoryConfigReduced256MB then
    some (1, k.defaultChaptersPerVolume, k.smallRecordPagesPerChapter)
  else if memGb = k.udsMemoryConfigReduced512MB then
    some (1, k.defaultChaptersPerVolume, 2 * k.smallRecordPagesPerChapter)
  else if memGb = k.udsMemoryConfigReduced768MB then
    some (1, k.defaultChaptersPerVolume, 3 * k.smallRecordPagesPerChapter)
  else if 1 + k.udsMemoryConfigReduced ≤ memGb ∧ memGb ≤ k.udsMemoryConfigReducedMax then
    some (1, (memGb - k.udsMemoryConfigReduced) * k.defaultChaptersPerVolume,
      k.defaultRecordPagesPerChapter)
  else none

/-- `compute_memory_sizes`: `-EINVAL`, after logging `received invalid memory size`, for
a size it does not know. -/
def computeMemorySizes (memGb : UInt32) (sparse : Bool) : Except Int MemorySizes :=
  match memorySizeBase k memGb with
  | none => .error (-einval)
  | some (reducedChapters, baseChapters, recordPagesPerChapter) =>
    let sparseChaptersPerVolume := if sparse then 9 * baseChapters + baseChapters / 2 else 0
    let baseChapters := if sparse then baseChapters * 10 else baseChapters
    .ok ⟨baseChapters - reducedChapters, recordPagesPerChapter, sparseChaptersPerVolume⟩

/-- `normalize_zone_count`, on a machine with `numCores` cores (`uds_get_num_cores`). -/
def normalizeZoneCount (numCores requested : UInt32) : UInt32 :=
  let zoneCount := if requested = 0 then numCores / 2 else requested
  let zoneCount := if zoneCount < 1 then 1 else zoneCount
  if zoneCount > k.maxZones then k.maxZones else zoneCount

/-- `normalize_read_threads`. -/
def normalizeReadThreads (requested : UInt32) : UInt32 :=
  let readThreads := if requested < 1 then k.defaultVolumeReadThreads else requested
  if readThreads > k.maxVolumeReadThreads then k.maxVolumeReadThreads else readThreads

/-- Modelled from its call in `make_configuration`: `make_geometry` fails with `result`,
or, when `result` is `UDS_SUCCESS`, builds a geometry holding the values it is given. -/
def makeGeometry (result : Int) (bytesPerPage : UInt64)
    (recordPagesPerChapter chaptersPerVolume sparseChaptersPerVolume : UInt32)
    (remappedVirtual remappedPhysical : UInt64) : Except Int Geometry :=
  if result = 0 then
    .ok ⟨bytesPerPage, recordPagesPerChapter, chaptersPerVolume, sparseChaptersPerVolume,
      remappedVirtual, remappedPhysical⟩
  else .error result

/-- `make_configuration`, on a machine with `numCores` cores, with `make_geometry`
answering `geometryResult`. -/
def makeConfiguration (numCores : UInt32) (geometryResult : Int) (conf : UdsConfiguration) :
    Except Int IndexConfiguration := do
  let sizes ← computeMemorySizes k conf.memorySize conf.sparse
  let geometry ← makeGeometry geometryResult k.defaultBytesPerPage sizes.recordPagesPerChapter
    sizes.chaptersPerVolume sizes.sparseChaptersPerVolume 0 0
  pure
    { stored :=
        { geometry
          volumeIndexMeanDelta := k.defaultVolumeIndexMeanDelta
          cacheChapters := k.defaultCacheChapters
          sparseSampleRate := if conf.sparse then k.defaultSparseSampleRate else 0
          nonce := conf.nonce }
      zoneCount := normalizeZoneCount k numCores conf.zoneCount
      readThreads := normalizeReadThreads k conf.readThreads
      name := conf.name }

/-! ### The configuration `make_configuration` makes -/

/-- `make_configuration` succeeds exactly when `compute_memory_sizes` knows the memory
size and `make_geometry` succeeds, and then fills the configuration from the sizes, the
defaults and the user's request. -/
theorem makeConfiguration_eq_ok {numCores : UInt32} {geometryResult : Int}
    {conf : UdsConfiguration} {c : IndexConfiguration}
    (h : makeConfiguration k numCores geometryResult conf = .ok c) :
    ∃ sizes, computeMemorySizes k conf.memorySize conf.sparse = .ok sizes ∧ geometryResult = 0 ∧
      c = { stored :=
              { geometry := ⟨k.defaultBytesPerPage, sizes.recordPagesPerChapter,
                  sizes.chaptersPerVolume, sizes.sparseChaptersPerVolume, 0, 0⟩
                volumeIndexMeanDelta := k.defaultVolumeIndexMeanDelta
                cacheChapters := k.defaultCacheChapters
                sparseSampleRate := if conf.sparse then k.defaultSparseSampleRate else 0
                nonce := conf.nonce }
            zoneCount := normalizeZoneCount k numCores conf.zoneCount
            readThreads := normalizeReadThreads k conf.readThreads
            name := conf.name } := by
  unfold makeConfiguration at h
  rcases hs : computeMemorySizes k conf.memorySize conf.sparse with e | sizes <;>
    rw [hs] at h
  · cases h
  · by_cases hg : geometryResult = 0
    · simp only [makeGeometry, hg, if_true] at h
      exact ⟨sizes, rfl, hg, (Except.ok.inj h).symm⟩
    · simp [makeGeometry, hg] at h
      cases h

theorem configurationsAgree_refl (config : Configuration) : ConfigurationsAgree config config :=
  ⟨rfl, rfl, rfl, rfl, rfl, rfl, rfl, rfl⟩

/-- **A made configuration survives its configuration block.**  For every user
configuration and every version, when `DEFAULT_BYTES_PER_PAGE` fits the `u32` the block
saves it as: the configuration `make_configuration` makes is written by
`write_config_contents`, and `validate_config_contents` of those bytes against that same
configuration succeeds, consumes exactly the block, and gives back the configuration
unchanged (its remapping is the zero `make_configuration` gave it). -/
theorem makeConfiguration_roundTrip (codes : BufferCodes)
    (hbpp : k.defaultBytesPerPage.toNat < 2 ^ 32) {numCores : UInt32} {geometryResult : Int}
    {conf : UdsConfiguration} {c : IndexConfiguration}
    (hc : makeConfiguration k numCores geometryResult conf = .ok c) (version : UInt32)
    (rest : List UInt8) :
    ∃ bytes, writeConfigContents codes c.stored version = .ok bytes ∧
      (validateConfigContents codes c.stored).run (bytes ++ rest) = .ok (c.stored, rest) := by
  obtain ⟨sizes, -, -, rfl⟩ := makeConfiguration_eq_ok k hc
  refine ⟨_, writeConfigContents_eq codes _ version, ?_⟩
  by_cases hv : version < 4
  · rw [if_pos hv, validateConfigContents_saved codes hbpp (readVersion_run0602 codes _ rest),
      if_pos (configurationsAgree_refl _)]
  · rw [if_neg hv, validateConfigContents_saved codes hbpp (readVersion_run0802 codes _ rest),
      if_pos (configurationsAgree_refl _)]

end Make

/-- A choice of the constants. -/
def sampleIndexConstants : IndexConstants :=
  ⟨4294967040, 4294966784, 4294966528, 1024, 4096, 4294966016, 4294965760, 4294965504, 5120,
    1024, 64, 256, 16, 2, 16, 7, 4096, 32, 4096⟩

/-- A dense one-gigabyte index asked for with no zone count and no read thread count. -/
def sampleUdsConfiguration : UdsConfiguration := ⟨1, false, 0, 0, 0xDEAD, "vdo"⟩

/-- What `make_configuration` makes of it on an eight-core machine. -/
def sampleIndexConfiguration : IndexConfiguration :=
  ⟨⟨⟨4096, 256, 1024, 0, 0, 0⟩, 4096, 7, 0, 0xDEAD⟩, 4, 2, "vdo"⟩

theorem makeConfiguration_roundTrip_sample :
    sampleIndexConstants.defaultBytesPerPage.toNat < 2 ^ 32 ∧
    makeConfiguration sampleIndexConstants 8 0 sampleUdsConfiguration = .ok sampleIndexConfiguration ∧
    ∃ bytes, writeConfigContents sampleBufferCodes sampleIndexConfiguration.stored 4 = .ok bytes ∧
      (validateConfigContents sampleBufferCodes sampleIndexConfiguration.stored).run (bytes ++ []) =
        .ok (sampleIndexConfiguration.stored, []) :=
  ⟨by decide, rfl, @makeConfiguration_roundTrip sampleIndexConstants sampleBufferCodes
    (by decide) 8 0 sampleUdsConfiguration sampleIndexConfiguration rfl 4 []⟩

end Kvdo
