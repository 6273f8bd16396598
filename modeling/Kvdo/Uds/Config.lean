/-
# The index configuration block

`config.c` saves an index's configuration as the magic `"ALBIC"`, a five-byte version
string and a payload of little-endian integers (`write_config_contents`), and reads it
back and compares it with the configuration the index is opened with
(`validate_config_contents`).

| version | written when | payload | layout |
| --- | --- | ---: | --- |
| `06.02` | `version < 4` | 40 bytes | 8 × `u32`, `u64 nonce` |
| `08.02` | `version ≥ 4` | 56 bytes | the `06.02` payload, `u64 remapped_virtual`, `u64 remapped_physical` |

The `u32`s are `record_pages_per_chapter`, `chapters_per_volume`,
`sparse_chapters_per_volume`, `cache_chapters`, a zero word, `volume_index_mean_delta`,
`bytes_per_page` and `sparse_sample_rate`.  `bytes_per_page` is a `size_t` in
`struct geometry`: it is written as its low 32 bits and compared, on reading, with the
user's whole value.

The buffer and buffered-reader primitives and the structure sizes are not in the
sources; they are modelled from the spec, which fixes the little-endian layout, and the
error codes they return are parameters (`BufferCodes`).  The buffered writer is
modelled as appending to the bytes written so far.

* `write_config_contents` writes the magic, the version string the write policy picks
  and the spec's payload for it (`writeConfigContents_eq`), and `read_version` decodes
  exactly that payload (`readVersion_run0602`, `readVersion_run0802`);
* `validate_config_contents` on the block succeeds exactly when the user's configuration
  agrees with the saved one on the eight compared fields, and then copies the saved
  remapping; any other version string is `UDS_CORRUPT_COMPONENT`
  (`configContents_roundTrip`);
* a `bytes_per_page` of 2^32 or more does not survive the round trip
  (`configContents_bytesPerPage_truncated`).
-/

import Kvdo.Status

namespace Kvdo

/-! ## Little-endian integers -/

/-- Modelled from the spec: the `w` little-endian bytes of `n`, as the
`put_uint*_le_into_buffer` functions write them; bits above `8 * w` are dropped. -/
def encodeLE : Nat → Nat → List UInt8
  | 0, _ => []
  | w + 1, n => UInt8.ofNat (n % 256) :: encodeLE w (n / 256)

/-- Modelled from the spec: the number with the given little-endian bytes, as the
`get_uint*_le_from_buffer` functions read it. -/
def decodeLE : List UInt8 → Nat
  | [] => 0
  | b :: bs => b.toNat + 256 * decodeLE bs

@[simp] theorem length_encodeLE (w n : Nat) : (encodeLE w n).length = w := by
  induction w generalizing n <;> simp [encodeLE, *]

theorem decodeLE_encodeLE (w n : Nat) : decodeLE (encodeLE w n) = n % 256 ^ w := by
  induction w generalizing n with
  | zero => simp [decodeLE, encodeLE, Nat.mod_one]
  | succ w ih =>
    have hb : (UInt8.ofNat (n % 256)).toNat = n % 256 := by simp [UInt8.toNat, UInt8.ofNat]
    rw [encodeLE, decodeLE, ih, hb, pow_succ', Nat.mod_mul]

@[simp] theorem uint32_ofNat_toNat (x : UInt32) : UInt32.ofNat x.toNat = x :=
  UInt32.toNat.inj (UInt32.toNat_ofNat_of_lt x.toNat_lt_size)

@[simp] theorem uint64_ofNat_toNat (x : UInt64) : UInt64.ofNat x.toNat = x :=
  UInt64.toNat.inj (UInt64.toNat_ofNat_of_lt x.toNat_lt_size)

theorem toNat_toUInt32 (x : UInt64) : x.toUInt32.toNat = x.toNat % 2 ^ 32 := by
  simp [UInt64.toUInt32, UInt32.toNat, UInt64.toNat, Nat.toUInt32, UInt32.ofNat]

/-- Narrowing a `size_t` to `uint32_t` and widening it back is the identity exactly on
values below 2^32. -/
theorem toUInt64_toUInt32_eq_iff (x : UInt64) : x.toUInt32.toUInt64 = x ↔ x.toNat < 2 ^ 32 := by
  have h : x.toUInt32.toUInt64.toNat = x.toNat % 2 ^ 32 := toNat_toUInt32 x
  constructor
  · intro hx; rw [hx] at h; omega
  · intro hx; exact UInt64.toNat.inj (by rw [h, Nat.mod_eq_of_lt hx])

/-! ## Buffers and buffered readers -/

/-- The error codes that the buffer and buffered-reader primitives and `ASSERT_LOG_ONLY`
return; their values are fixed outside the sources.  Each is a failure, which is what
lets the model turn a non-`UDS_SUCCESS` result into an `Except` error. -/
structure BufferCodes where
  /-- A get, skip or put past the end of a buffer's contents or space. -/
  bufferError : Status
  /-- `read_from_buffered_reader` finding fewer bytes than asked for. -/
  readError : Status
  /-- `verify_buffered_data` finding other bytes than the expected ones. -/
  verifyError : Status
  /-- A failed `ASSERT_LOG_ONLY`. -/
  assertionFailed : Status
  bufferError_ne : bufferError ≠ .success
  readError_ne : readError ≠ .success
  verifyError_ne : verifyError ≠ .success
  assertionFailed_ne : assertionFailed ≠ .success

/-- A computation that reads from the front of a byte sequence: the contents of a
`struct buffer` between its `start` and `end`, or what a buffered reader has left. -/
abbrev ByteReader := StateT (List UInt8) (Except Status)

/-- Modelled from the spec: the writing side of a `struct buffer` made by `make_buffer`
with `length` bytes of space, and the bytes put into it so far. -/
structure Buffer where
  length : Nat
  contents : List UInt8
  deriving DecidableEq, Repr

/-- A computation that puts bytes into a `struct buffer`. -/
abbrev BufferWriter := StateT Buffer (Except Status)

/-- Modelled from the spec: `make_buffer`, an empty buffer of `size` bytes. -/
def makeBuffer (size : Nat) : Buffer := ⟨size, []⟩

/-- Modelled from the spec: `available_space`. -/
def availableSpace (buffer : Buffer) : Nat := buffer.length - buffer.contents.length

section Primitives

variable (codes : BufferCodes)

/-- Modelled from the spec: take the next `n` bytes, failing with `err` if fewer are
left. -/
def takeBytes (err : Status) (n : Nat) : ByteReader (List UInt8) := fun bytes =>
  if bytes.length < n then .error err else .ok (bytes.take n, bytes.drop n)

/-- Modelled from the spec: `get_uint32_le_from_buffer`. -/
def getUint32LeFromBuffer : ByteReader UInt32 := do
  return UInt32.ofNat (decodeLE (← takeBytes codes.bufferError 4))

/-- Modelled from the spec: `get_uint64_le_from_buffer`. -/
def getUint64LeFromBuffer : ByteReader UInt64 := do
  return UInt64.ofNat (decodeLE (← takeBytes codes.bufferError 8))

/-- Modelled from the spec: `skip_forward`. -/
def skipForward (length : Nat) : ByteReader Unit := do
  let _ ← takeBytes codes.bufferError length

/-- Modelled from the spec: `content_length`. -/
def contentLength : ByteReader Nat := fun bytes => .ok (bytes.length, bytes)

/-- Modelled from the spec: `read_from_buffered_reader`. -/
def readFromBufferedReader (length : Nat) : ByteReader (List UInt8) :=
  takeBytes codes.readError length

/-- Modelled from the spec: `verify_buffered_data`, which reads as many bytes as `value`
has and fails unless they are `value`. -/
def verifyBufferedData (value : List UInt8) : ByteReader Unit := do
  if (← readFromBufferedReader codes value.length) ≠ value then throw codes.verifyError

/-- Modelled from the spec: put `bytes` after the contents, failing if less space is
left. -/
def putBytes (bytes : List UInt8) : BufferWriter Unit := fun buffer =>
  if availableSpace buffer < bytes.length then .error codes.bufferError
  else .ok ((), { buffer with contents := buffer.contents ++ bytes })

/-- Modelled from the spec: `put_uint32_le_into_buffer`. -/
def putUint32LeIntoBuffer (ui : UInt32) : BufferWriter Unit :=
  putBytes codes (encodeLE 4 ui.toNat)

/-- Modelled from the spec: `put_uint64_le_into_buffer`. -/
def putUint64LeIntoBuffer (ui : UInt64) : BufferWriter Unit :=
  putBytes codes (encodeLE 8 ui.toNat)

/-- Modelled from the spec: `zero_bytes`. -/
def zeroBytes (length : Nat) : BufferWriter Unit :=
  putBytes codes (List.replicate length 0)

/-- Modelled from the spec: `ASSERT_LOG_ONLY`, which logs a failed condition and
returns an assertion failure. -/
def assertLogOnly (condition : Bool) : Except Status Unit :=
  if condition then .ok () else .error codes.assertionFailed

end Primitives

/-! ## Configurations -/

/-- The fields of a `struct geometry` that the configuration block stores. -/
structure Geometry where
  bytesPerPage : UInt64
  recordPagesPerChapter : UInt32
  chaptersPerVolume : UInt32
  sparseChaptersPerVolume : UInt32
  remappedVirtual : UInt64
  remappedPhysical : UInt64
  deriving DecidableEq, Repr

/-- The fields of a `struct configuration` that the configuration block stores. -/
structure Configuration where
  geometry : Geometry
  volumeIndexMeanDelta : UInt32
  cacheChapters : UInt32
  sparseSampleRate : UInt32
  nonce : UInt64
  deriving DecidableEq, Repr

/-- `struct uds_configuration_8_02`, the saved configuration `read_version` decodes,
without the word the decoders skip. -/
structure UdsConfiguration802 where
  recordPagesPerChapter : UInt32
  chaptersPerVolume : UInt32
  sparseChaptersPerVolume : UInt32
  cacheChapters : UInt32
  volumeIndexMeanDelta : UInt32
  bytesPerPage : UInt32
  sparseSampleRate : UInt32
  nonce : UInt64
  remappedVirtual : UInt64
  remappedPhysical : UInt64
  deriving DecidableEq, Repr

/-- The bytes of an ASCII string, without its terminating zero. -/
def asciiBytes (s : String) : List UInt8 := s.toList.map fun c => c.toNat.toUInt8

/-- `INDEX_CONFIG_MAGIC`. -/
def indexConfigMagic : List UInt8 := asciiBytes "ALBIC"

/-- `INDEX_CONFIG_VERSION_6_02`. -/
def indexConfigVersion602 : List UInt8 := asciiBytes "06.02"

/-- `INDEX_CONFIG_VERSION_8_02`. -/
def indexConfigVersion802 : List UInt8 := asciiBytes "08.02"

/-- `INDEX_CONFIG_VERSION_LENGTH`. -/
def indexConfigVersionLength : Nat := indexConfigVersion602.length

/-- Modelled from the spec: `sizeof(struct uds_configuration_6_02)`, eight `u32`s and a
`u64`. -/
def sizeofUdsConfiguration602 : Nat := 40

/-- Modelled from the spec: `sizeof(struct uds_configuration_8_02)`, the 06.02 fields and
two `u64`s. -/
def sizeofUdsConfiguration802 : Nat := 56

section Codec

variable (codes : BufferCodes)

/-- The body `decode_index_config_06_02` and `decode_index_config_08_02` share: the
06.02 fields, then the remapping as `decodeRemapping` obtains it, then the check that
the buffer has been used up, whose failure is `UDS_CORRUPT_COMPONENT`. -/
def decodeIndexConfig (decodeRemapping : ByteReader (UInt64 × UInt64)) :
    ByteReader UdsConfiguration802 := do
  let recordPagesPerChapter ← getUint32LeFromBuffer codes
  let chaptersPerVolume ← getUint32LeFromBuffer codes
  let sparseChaptersPerVolume ← getUint32LeFromBuffer codes
  let cacheChapters ← getUint32LeFromBuffer codes
  skipForward codes 4
  let volumeIndexMeanDelta ← getUint32LeFromBuffer codes
  let bytesPerPage ← getUint32LeFromBuffer codes
  let sparseSampleRate ← getUint32LeFromBuffer codes
  let nonce ← getUint64LeFromBuffer codes
  let (remappedVirtual, remappedPhysical) ← decodeRemapping
  if let .error _ := assertLogOnly codes ((← contentLength) == 0) then
    throw .corruptComponent
  return { recordPagesPerChapter, chaptersPerVolume, sparseChaptersPerVolume, cacheChapters,
           volumeIndexMeanDelta, bytesPerPage, sparseSampleRate, nonce,
           remappedVirtual, remappedPhysical }

/-- `decode_index_config_06_02`: no remapping is stored, and both fields are set to 0. -/
def decodeIndexConfig0602 : ByteReader UdsConfiguration802 :=
  decodeIndexConfig codes (pure (0, 0))

/-- `decode_index_config_08_02`: the remapping follows the nonce. -/
def decodeIndexConfig0802 : ByteReader UdsConfiguration802 :=
  decodeIndexConfig codes do
    let remappedVirtual ← getUint64LeFromBuffer codes
    let remappedPhysical ← getUint64LeFromBuffer codes
    return (remappedVirtual, remappedPhysical)

/-- `read_version`: the version string picks the decoder, which reads a buffer of the
matching structure's size from the reader. -/
def readVersion : ByteReader UdsConfiguration802 := do
  let versionBuffer ← readFromBufferedReader codes indexConfigVersionLength
  if versionBuffer = indexConfigVersion602 then
    let buffer ← readFromBufferedReader codes sizeofUdsConfiguration602
    let conf ← (decodeIndexConfig0602 codes).run' buffer
    return conf
  else if versionBuffer = indexConfigVersion802 then
    let buffer ← readFromBufferedReader codes sizeofUdsConfiguration802
    let conf ← (decodeIndexConfig0802 codes).run' buffer
    return conf
  else
    throw .corruptComponent

/-- `are_matching_configurations`: the eight compared fields, `bytes_per_page` widened to
the geometry's `size_t`. -/
def areMatchingConfigurations (saved : UdsConfiguration802) (user : Configuration) : Bool :=
  let geometry := user.geometry
  saved.recordPagesPerChapter == geometry.recordPagesPerChapter &&
  saved.chaptersPerVolume == geometry.chaptersPerVolume &&
  saved.sparseChaptersPerVolume == geometry.sparseChaptersPerVolume &&
  saved.cacheChapters == user.cacheChapters &&
  saved.volumeIndexMeanDelta == user.volumeIndexMeanDelta &&
  saved.bytesPerPage.toUInt64 == geometry.bytesPerPage &&
  saved.sparseSampleRate == user.sparseSampleRate &&
  saved.nonce == user.nonce

/-- `validate_config_contents`: the user's configuration with the saved remapping, when
the saved configuration matches it. -/
def validateConfigContents (config : Configuration) : ByteReader Configuration := do
  verifyBufferedData codes indexConfigMagic
  let saved ← readVersion codes
  if !areMatchingConfigurations saved config then throw .noIndex
  return { config with geometry := { config.geometry with
    remappedVirtual := saved.remappedVirtual
    remappedPhysical := saved.remappedPhysical } }

/-- The body `encode_index_config_06_02` and `encode_index_config_08_02` share: the 06.02
fields, then `encodeRemapping`, then the check that the buffer is full. -/
def encodeIndexConfig (encodeRemapping : BufferWriter Unit) (config : Configuration) :
    BufferWriter Unit := do
  let geometry := config.geometry
  putUint32LeIntoBuffer codes geometry.recordPagesPerChapter
  putUint32LeIntoBuffer codes geometry.chaptersPerVolume
  putUint32LeIntoBuffer codes geometry.sparseChaptersPerVolume
  putUint32LeIntoBuffer codes config.cacheChapters
  zeroBytes codes 4
  putUint32LeIntoBuffer codes config.volumeIndexMeanDelta
  putUint32LeIntoBuffer codes geometry.bytesPerPage.toUInt32
  putUint32LeIntoBuffer codes config.sparseSampleRate
  putUint64LeIntoBuffer codes config.nonce
  encodeRemapping
  assertLogOnly codes (availableSpace (← get) == 0)

/-- `encode_index_config_06_02`. -/
def encodeIndexConfig0602 (config : Configuration) : BufferWriter Unit :=
  encodeIndexConfig codes (pure ()) config

/-- `encode_index_config_08_02`: the geometry's remapping follows the nonce. -/
def encodeIndexConfig0802 (config : Configuration) : BufferWriter Unit :=
  encodeIndexConfig codes (do
    putUint64LeIntoBuffer codes config.geometry.remappedVirtual
    putUint64LeIntoBuffer codes config.geometry.remappedPhysical) config

/-- `write_config_contents`: the bytes it hands to the buffered writer.  A `version`
below 4 is written as 06.02, which older versions of UDS read. -/
def writeConfigContents (config : Configuration) (version : UInt32) :
    Except Status (List UInt8) := do
  if version < 4 then
    let ((), buffer) ← (encodeIndexConfig0602 codes config).run
      (makeBuffer sizeofUdsConfiguration602)
    return indexConfigMagic ++ indexConfigVersion602 ++ buffer.contents
  else
    let ((), buffer) ← (encodeIndexConfig0802 codes config).run
      (makeBuffer sizeofUdsConfiguration802)
    return indexConfigMagic ++ indexConfigVersion802 ++ buffer.contents

end Codec

/-! ## The spec's layout -/

/-- The version 06.02 payload as the spec lays it out: the `u32`s
`record_pages_per_chapter`, `chapters_per_volume`, `sparse_chapters_per_volume`,
`cache_chapters`, a reserved zero, `volume_index_mean_delta`, `bytes_per_page` (the
geometry's value as a `u32`) and `sparse_sample_rate`, then the `u64` nonce, all
little-endian. -/
def configPayload0602 (config : Configuration) : List UInt8 :=
  let g := config.geometry
  encodeLE 4 g.recordPagesPerChapter.toNat ++ encodeLE 4 g.chaptersPerVolume.toNat ++
    encodeLE 4 g.sparseChaptersPerVolume.toNat ++ encodeLE 4 config.cacheChapters.toNat ++
    encodeLE 4 0 ++ encodeLE 4 config.volumeIndexMeanDelta.toNat ++
    encodeLE 4 g.bytesPerPage.toUInt32.toNat ++ encodeLE 4 config.sparseSampleRate.toNat ++
    encodeLE 8 config.nonce.toNat

/-- The version 08.02 payload: the 06.02 payload, then the `u64`s `remapped_virtual` and
`remapped_physical`. -/
def configPayload0802 (config : Configuration) : List UInt8 :=
  configPayload0602 config ++ encodeLE 8 config.geometry.remappedVirtual.toNat ++
    encodeLE 8 config.geometry.remappedPhysical.toNat

/-- The saved configuration a block written from `config` holds, with the remapping it
was written with. -/
def savedConfiguration (config : Configuration) (remappedVirtual remappedPhysical : UInt64) :
    UdsConfiguration802 where
  recordPagesPerChapter := config.geometry.recordPagesPerChapter
  chaptersPerVolume := config.geometry.chaptersPerVolume
  sparseChaptersPerVolume := config.geometry.sparseChaptersPerVolume
  cacheChapters := config.cacheChapters
  volumeIndexMeanDelta := config.volumeIndexMeanDelta
  bytesPerPage := config.geometry.bytesPerPage.toUInt32
  sparseSampleRate := config.sparseSampleRate
  nonce := config.nonce
  remappedVirtual := remappedVirtual
  remappedPhysical := remappedPhysical

/-- `user` agrees with `config` on the eight fields the spec says are compared: record
pages, chapters, sparse chapters, cache chapters, mean delta, bytes per page, sample rate
and nonce. -/
def ConfigurationsAgree (config user : Configuration) : Prop :=
  config.geometry.recordPagesPerChapter = user.geometry.recordPagesPerChapter ∧
  config.geometry.chaptersPerVolume = user.geometry.chaptersPerVolume ∧
  config.geometry.sparseChaptersPerVolume = user.geometry.sparseChaptersPerVolume ∧
  config.cacheChapters = user.cacheChapters ∧
  config.volumeIndexMeanDelta = user.volumeIndexMeanDelta ∧
  config.geometry.bytesPerPage = user.geometry.bytesPerPage ∧
  config.sparseSampleRate = user.sparseSampleRate ∧
  config.nonce = user.nonce

instance (config user : Configuration) : Decidable (ConfigurationsAgree config user) :=
  inferInstanceAs (Decidable (_ ∧ _))

@[simp] theorem length_configPayload0602 (config : Configuration) :
    (configPayload0602 config).length = 40 := by
  simp [configPayload0602]

@[simp] theorem length_configPayload0802 (config : Configuration) :
    (configPayload0802 config).length = 56 := by
  simp [configPayload0802]

section Lemmas

variable (codes : BufferCodes)

theorem takeBytes_append (err : Status) {n : Nat} {bytes : List UInt8} (rest : List UInt8)
    (h : bytes.length = n) : (takeBytes err n).run (bytes ++ rest) = pure (bytes, rest) := by
  subst h; simp [takeBytes, StateT.run]; rfl

theorem getUint32LeFromBuffer_append (x : UInt32) (rest : List UInt8) :
    (getUint32LeFromBuffer codes).run (encodeLE 4 x.toNat ++ rest) = pure (x, rest) := by
  have hx : x.toNat % 4294967296 = x.toNat := Nat.mod_eq_of_lt x.toNat_lt_size
  simp [getUint32LeFromBuffer, takeBytes_append, decodeLE_encodeLE, hx]

theorem getUint64LeFromBuffer_append (x : UInt64) (rest : List UInt8) :
    (getUint64LeFromBuffer codes).run (encodeLE 8 x.toNat ++ rest) = pure (x, rest) := by
  have hx : x.toNat % 18446744073709551616 = x.toNat := Nat.mod_eq_of_lt x.toNat_lt_size
  simp [getUint64LeFromBuffer, takeBytes_append, decodeLE_encodeLE, hx]

theorem skipForward_append {n : Nat} {bytes : List UInt8} (rest : List UInt8)
    (h : bytes.length = n) : (skipForward codes n).run (bytes ++ rest) = pure ((), rest) := by
  simp [skipForward, takeBytes_append _ rest h]

theorem putBytes_run {bytes : List UInt8} {buffer : Buffer}
    (h : buffer.contents.length + bytes.length ≤ buffer.length) :
    (putBytes codes bytes).run buffer =
      pure ((), { buffer with contents := buffer.contents ++ bytes }) := by
  simp only [putBytes, availableSpace, StateT.run]
  rw [if_neg (by omega)]; rfl

/-- The shared encoder puts the spec's 06.02 payload, then the remapping's bytes, into a
buffer of exactly their size. -/
theorem encodeIndexConfig_run {encodeRemapping : BufferWriter Unit} {remapBytes : List UInt8}
    (hR : ∀ buffer : Buffer, buffer.contents.length + remapBytes.length ≤ buffer.length →
      encodeRemapping.run buffer = pure ((), { buffer with contents := buffer.contents ++ remapBytes }))
    (config : Configuration) :
    (encodeIndexConfig codes encodeRemapping config).run (makeBuffer (40 + remapBytes.length)) =
      pure ((), ⟨40 + remapBytes.length, configPayload0602 config ++ remapBytes⟩) := by
  simp (disch := simp only [List.length_append, length_encodeLE, List.length_replicate,
      List.length_nil]; omega) only [encodeIndexConfig, putUint32LeIntoBuffer,
    putUint64LeIntoBuffer, zeroBytes, StateT.run_bind, putBytes_run, hR, pure_bind, makeBuffer]
  simp only [StateT.run_get, pure_bind, availableSpace, List.length_append, length_encodeLE,
    List.length_replicate, List.length_nil, Nat.zero_add, Nat.sub_self]
  rfl

theorem encodeIndexConfig0602_run (config : Configuration) :
    (encodeIndexConfig0602 codes config).run (makeBuffer sizeofUdsConfiguration602) =
      pure ((), ⟨sizeofUdsConfiguration602, configPayload0602 config⟩) := by
  have h := @encodeIndexConfig_run codes (pure ()) [] (fun buffer _ => by simp) config
  rwa [List.append_nil] at h

/-- The remapping `encode_index_config_08_02` puts after the nonce. -/
theorem encodeRemapping0802_run (config : Configuration) (buffer : Buffer)
    (h : buffer.contents.length + 16 ≤ buffer.length) :
    (do putUint64LeIntoBuffer codes config.geometry.remappedVirtual
        putUint64LeIntoBuffer codes config.geometry.remappedPhysical : BufferWriter Unit).run buffer =
      pure ((), { buffer with contents := buffer.contents ++
        (encodeLE 8 config.geometry.remappedVirtual.toNat ++
          encodeLE 8 config.geometry.remappedPhysical.toNat) }) := by
  simp (disch := simp only [List.length_append, length_encodeLE]; omega) only [StateT.run_bind,
    putUint64LeIntoBuffer, putBytes_run, pure_bind, List.append_assoc]

theorem encodeIndexConfig0802_run (config : Configuration) :
    (encodeIndexConfig0802 codes config).run (makeBuffer sizeofUdsConfiguration802) =
      pure ((), ⟨sizeofUdsConfiguration802, configPayload0802 config⟩) := by
  have h := encodeIndexConfig_run codes
    (fun buffer hb => encodeRemapping0802_run codes config buffer (by simpa using hb)) config
  rw [configPayload0802, List.append_assoc]
  exact h

/-- The shared decoder reads the 06.02 fields back from the spec's payload, then the
remapping, and succeeds when nothing is left. -/
theorem decodeIndexConfig_run {decodeRemapping : ByteReader (UInt64 × UInt64)}
    {remapBytes : List UInt8} {rv rp : UInt64}
    (hR : decodeRemapping.run remapBytes = pure ((rv, rp), [])) (config : Configuration) :
    (decodeIndexConfig codes decodeRemapping).run (configPayload0602 config ++ remapBytes) =
      pure (savedConfiguration config rv rp, []) := by
  simp only [decodeIndexConfig, configPayload0602, List.append_assoc, StateT.run_bind, pure_bind,
    getUint32LeFromBuffer_append, getUint64LeFromBuffer_append,
    skipForward_append _ _ (length_encodeLE 4 0), hR]
  rfl

theorem decodeIndexConfig0602_run (config : Configuration) :
    (decodeIndexConfig0602 codes).run (configPayload0602 config) =
      pure (savedConfiguration config 0 0, []) := by
  have h := @decodeIndexConfig_run codes (pure (0, 0)) [] 0 0 rfl config
  rwa [List.append_nil] at h

theorem decodeIndexConfig0802_run (config : Configuration) :
    (decodeIndexConfig0802 codes).run (configPayload0802 config) =
      pure (savedConfiguration config config.geometry.remappedVirtual
        config.geometry.remappedPhysical, []) := by
  rw [configPayload0802, List.append_assoc]
  refine decodeIndexConfig_run codes ?_ config
  rw [← List.append_nil (encodeLE 8 config.geometry.remappedPhysical.toNat)]
  simp only [StateT.run_bind, getUint64LeFromBuffer_append, pure_bind]
  rfl

theorem length_indexConfigVersion602 : indexConfigVersion602.length = indexConfigVersionLength := rfl

theorem length_indexConfigVersion802 : indexConfigVersion802.length = indexConfigVersionLength := rfl

theorem indexConfigVersion802_ne : indexConfigVersion802 ≠ indexConfigVersion602 := by decide

/-- `read_version` on a 06.02 block reads the version string and the 40 bytes of the
payload, and decodes them. -/
theorem readVersion_run0602 (config : Configuration) (rest : List UInt8) :
    (readVersion codes).run (indexConfigVersion602 ++ configPayload0602 config ++ rest) =
      pure (savedConfiguration config 0 0, rest) := by
  simp only [readVersion, readFromBufferedReader, List.append_assoc, StateT.run_bind,
    takeBytes_append _ _ length_indexConfigVersion602, pure_bind, if_pos,
    takeBytes_append _ _ (show (configPayload0602 config).length = sizeofUdsConfiguration602 from
      length_configPayload0602 config),
    StateT.run'_eq, decodeIndexConfig0602_run, map_pure, StateT.run_monadLift, StateT.run_pure,
    monadLift_self]

/-- `read_version` on an 08.02 block reads the version string and the 56 bytes of the
payload, and decodes them with the remapping. -/
theorem readVersion_run0802 (config : Configuration) (rest : List UInt8) :
    (readVersion codes).run (indexConfigVersion802 ++ configPayload0802 config ++ rest) =
      pure (savedConfiguration config config.geometry.remappedVirtual
        config.geometry.remappedPhysical, rest) := by
  simp only [readVersion, readFromBufferedReader, List.append_assoc, StateT.run_bind,
    takeBytes_append _ _ length_indexConfigVersion802, pure_bind, if_neg indexConfigVersion802_ne,
    if_pos, takeBytes_append _ _ (show (configPayload0802 config).length = sizeofUdsConfiguration802
      from length_configPayload0802 config),
    StateT.run'_eq, decodeIndexConfig0802_run, map_pure, StateT.run_monadLift, StateT.run_pure,
    monadLift_self]

/-- `read_version` rejects any other version string. -/
theorem readVersion_otherVersion {version : List UInt8}
    (hlen : version.length = indexConfigVersionLength) (h602 : version ≠ indexConfigVersion602)
    (h802 : version ≠ indexConfigVersion802) (bytes : List UInt8) :
    (readVersion codes).run (version ++ bytes) = throw .corruptComponent := by
  simp only [readVersion, readFromBufferedReader, StateT.run_bind, takeBytes_append _ _ hlen,
    pure_bind, if_neg h602, if_neg h802]
  rfl

/-- `validate_config_contents` on a block whose version `read_version` decodes to `saved`
with `rest` left: the user's configuration with the saved remapping if they match, and
`UDS_NO_INDEX` otherwise. -/
theorem validateConfigContents_run {bytes rest : List UInt8} {saved : UdsConfiguration802}
    (h : (readVersion codes).run bytes = pure (saved, rest)) (config : Configuration) :
    (validateConfigContents codes config).run (indexConfigMagic ++ bytes) =
      if areMatchingConfigurations saved config then
        pure ({ config with geometry := { config.geometry with
          remappedVirtual := saved.remappedVirtual
          remappedPhysical := saved.remappedPhysical } }, rest)
      else throw .noIndex := by
  simp only [validateConfigContents, verifyBufferedData, readFromBufferedReader, StateT.run_bind,
    takeBytes_append _ _ (rfl : indexConfigMagic.length = _), pure_bind, ne_eq, not_true_eq_false,
    if_false, StateT.run_pure, h]
  cases areMatchingConfigurations saved config <;> rfl

/-- `validate_config_contents` rejects any other version string after the magic. -/
theorem validateConfigContents_otherVersion {version : List UInt8}
    (hlen : version.length = indexConfigVersionLength) (h602 : version ≠ indexConfigVersion602)
    (h802 : version ≠ indexConfigVersion802) (bytes : List UInt8) (config : Configuration) :
    (validateConfigContents codes config).run (indexConfigMagic ++ version ++ bytes) =
      throw .corruptComponent := by
  simp only [validateConfigContents, verifyBufferedData, readFromBufferedReader, StateT.run_bind,
    List.append_assoc, takeBytes_append _ _ (rfl : indexConfigMagic.length = _), pure_bind, ne_eq,
    not_true_eq_false, if_false, StateT.run_pure, readVersion_otherVersion codes hlen h602 h802]
  rfl

/-- `write_config_contents` writes the magic, the version string the write policy picks
and the spec's payload for it. -/
theorem writeConfigContents_eq (config : Configuration) (version : UInt32) :
    writeConfigContents codes config version =
      .ok (if version < 4 then indexConfigMagic ++ indexConfigVersion602 ++ configPayload0602 config
        else indexConfigMagic ++ indexConfigVersion802 ++ configPayload0802 config) := by
  unfold writeConfigContents
  split_ifs
  · rw [encodeIndexConfig0602_run]; rfl
  · rw [encodeIndexConfig0802_run]; rfl

end Lemmas

/-- With a `bytes_per_page` below 2^32, the saved configuration matches a user's exactly
when they agree on the eight compared fields. -/
theorem areMatchingConfigurations_saved {config : Configuration}
    (h : config.geometry.bytesPerPage.toNat < 2 ^ 32) (rv rp : UInt64) (user : Configuration) :
    areMatchingConfigurations (savedConfiguration config rv rp) user =
      decide (ConfigurationsAgree config user) := by
  have hb := (toUInt64_toUInt32_eq_iff config.geometry.bytesPerPage).2 h
  rw [Bool.eq_iff_iff, decide_eq_true_iff]
  simp only [areMatchingConfigurations, savedConfiguration, ConfigurationsAgree, hb, Bool.and_eq_true,
    beq_iff_eq, and_assoc]

/-- A `bytes_per_page` of 2^32 or more is saved as its low 32 bits, so the saved
configuration never matches the one it was saved from. -/
theorem areMatchingConfigurations_saved_self {config : Configuration}
    (h : 2 ^ 32 ≤ config.geometry.bytesPerPage.toNat) (rv rp : UInt64) :
    areMatchingConfigurations (savedConfiguration config rv rp) config = false := by
  have hb : config.geometry.bytesPerPage.toUInt32.toUInt64 ≠ config.geometry.bytesPerPage :=
    fun he => absurd ((toUInt64_toUInt32_eq_iff _).1 he) (by omega)
  simp [areMatchingConfigurations, savedConfiguration, hb]

/-! ## The round trip -/

section RoundTrip

variable (codes : BufferCodes)

/-- `validate_config_contents` on the bytes `read_version` decodes to `saved` with `rest`
left, stated on the block as it is written. -/
theorem validateConfigContents_block {versionString payload rest : List UInt8}
    {saved : UdsConfiguration802}
    (h : (readVersion codes).run (versionString ++ payload ++ rest) = pure (saved, rest))
    (config : Configuration) :
    (validateConfigContents codes config).run (indexConfigMagic ++ versionString ++ payload ++ rest) =
      if areMatchingConfigurations saved config then
        pure ({ config with geometry := { config.geometry with
          remappedVirtual := saved.remappedVirtual
          remappedPhysical := saved.remappedPhysical } }, rest)
      else throw .noIndex := by
  have hv := validateConfigContents_run codes h config
  simp only [← List.append_assoc] at hv
  exact hv

/-- `validate_config_contents` on a block `read_version` decodes to the configuration
saved from `config`: it succeeds exactly when `user` agrees with `config`, with the saved
remapping. -/
theorem validateConfigContents_saved {config : Configuration}
    (hbpp : config.geometry.bytesPerPage.toNat < 2 ^ 32) {versionString payload rest : List UInt8}
    {rv rp : UInt64}
    (h : (readVersion codes).run (versionString ++ payload ++ rest) =
      pure (savedConfiguration config rv rp, rest)) (user : Configuration) :
    (validateConfigContents codes user).run (indexConfigMagic ++ versionString ++ payload ++ rest) =
      if ConfigurationsAgree config user then
        .ok ({ user with geometry := { user.geometry with
          remappedVirtual := rv, remappedPhysical := rp } }, rest)
      else .error .noIndex := by
  rw [validateConfigContents_block codes h, areMatchingConfigurations_saved hbpp]
  simp only [decide_eq_true_eq]
  split_ifs <;> rfl

/-- **The index configuration block round-trips.**  For every configuration whose
`bytes_per_page` fits the `u32` it is saved as, and every version:
`write_config_contents` writes `"ALBIC"`, then `"06.02"` and the spec's 40-byte payload
when the version is below 4, or `"08.02"` and the 56-byte payload otherwise;
`read_version` consumes exactly the version string and the payload, whatever follows;
`validate_config_contents` on the block succeeds exactly when the user's configuration
agrees with the saved one on the eight compared fields, handing back the user's
configuration with the saved remapping (`0` for a 06.02 block), and fails with
`UDS_NO_INDEX` otherwise; and any other five-byte version string is
`UDS_CORRUPT_COMPONENT`. -/
theorem configContents_roundTrip (config user : Configuration) (version : UInt32)
    (hbpp : config.geometry.bytesPerPage.toNat < 2 ^ 32) (rest : List UInt8) :
    let versionString := if version < 4 then indexConfigVersion602 else indexConfigVersion802
    let payload := if version < 4 then configPayload0602 config else configPayload0802 config
    let remapping : UInt64 × UInt64 := if version < 4 then (0, 0)
      else (config.geometry.remappedVirtual, config.geometry.remappedPhysical)
    writeConfigContents codes config version = .ok (indexConfigMagic ++ versionString ++ payload) ∧
    payload.length = (if version < 4 then 40 else 56) ∧
    (readVersion codes).run (versionString ++ payload ++ rest) =
      .ok (savedConfiguration config remapping.1 remapping.2, rest) ∧
    (validateConfigContents codes user).run (indexConfigMagic ++ versionString ++ payload ++ rest) =
      (if ConfigurationsAgree config user then
        .ok ({ user with geometry := { user.geometry with
          remappedVirtual := remapping.1, remappedPhysical := remapping.2 } }, rest)
      else .error .noIndex) ∧
    ∀ other : List UInt8, other.length = 5 → other ≠ indexConfigVersion602 →
      other ≠ indexConfigVersion802 → ∀ bytes : List UInt8,
        (validateConfigContents codes user).run (indexConfigMagic ++ other ++ bytes) =
          .error .corruptComponent := by
  intro versionString payload remapping
  have hother : ∀ other : List UInt8, other.length = 5 → other ≠ indexConfigVersion602 →
      other ≠ indexConfigVersion802 → ∀ bytes : List UInt8,
        (validateConfigContents codes user).run (indexConfigMagic ++ other ++ bytes) =
          .error .corruptComponent := fun _ hlen h602 h802 bytes =>
    validateConfigContents_otherVersion codes hlen h602 h802 bytes user
  by_cases hv : version < 4 <;>
    simp only [versionString, payload, remapping, hv, if_true, if_false]
  case pos =>
    have hread := readVersion_run0602 codes config rest
    exact ⟨by rw [writeConfigContents_eq, if_pos hv], length_configPayload0602 config, hread,
      validateConfigContents_saved codes hbpp hread user, hother⟩
  case neg =>
    have hread := readVersion_run0802 codes config rest
    exact ⟨by rw [writeConfigContents_eq, if_neg hv], length_configPayload0802 config, hread,
      validateConfigContents_saved codes hbpp hread user, hother⟩

/-- **A `bytes_per_page` of 2^32 or more does not survive the round trip**: the block
`write_config_contents` writes from such a configuration fails to validate against that
same configuration, with `UDS_NO_INDEX`, at every version. -/
theorem configContents_bytesPerPage_truncated (config : Configuration) (version : UInt32)
    (hbpp : 2 ^ 32 ≤ config.geometry.bytesPerPage.toNat) (rest : List UInt8) :
    ∃ bytes, writeConfigContents codes config version = .ok bytes ∧
      (validateConfigContents codes config).run (bytes ++ rest) = .error .noIndex := by
  refine ⟨_, writeConfigContents_eq codes config version, ?_⟩
  split_ifs
  · rw [validateConfigContents_block codes (readVersion_run0602 codes config rest),
      areMatchingConfigurations_saved_self hbpp]
    rfl
  · rw [validateConfigContents_block codes (readVersion_run0802 codes config rest),
      areMatchingConfigurations_saved_self hbpp]
    rfl

end RoundTrip

/-- Error codes for the buffer primitives; any failures will do. -/
def sampleBufferCodes : BufferCodes :=
  ⟨.other 1, .other 2, .other 3, .other 4, by decide, by decide, by decide, by decide⟩

/-- The spec's example E4: a version-4 block with `remapped_virtual = 0xDEAD` and
`remapped_physical = 0xBEEF`. -/
def e4Configuration : Configuration :=
  ⟨⟨4096, 256, 1024, 0, 0xDEAD, 0xBEEF⟩, 6, 7, 32, 42⟩

theorem configContents_roundTrip_e4 :
    (e4Configuration.geometry.bytesPerPage.toNat < 2 ^ 32) ∧
    let versionString := if (4 : UInt32) < 4 then indexConfigVersion602 else indexConfigVersion802
    let payload := if (4 : UInt32) < 4 then configPayload0602 e4Configuration
      else configPayload0802 e4Configuration
    let remapping : UInt64 × UInt64 := if (4 : UInt32) < 4 then (0, 0)
      else (e4Configuration.geometry.remappedVirtual, e4Configuration.geometry.remappedPhysical)
    writeConfigContents sampleBufferCodes e4Configuration 4 =
      .ok (indexConfigMagic ++ versionString ++ payload) ∧
    payload.length = (if (4 : UInt32) < 4 then 40 else 56) ∧
    (readVersion sampleBufferCodes).run (versionString ++ payload ++ []) =
      .ok (savedConfiguration e4Configuration remapping.1 remapping.2, []) ∧
    (validateConfigContents sampleBufferCodes e4Configuration).run
        (indexConfigMagic ++ versionString ++ payload ++ []) =
      (if ConfigurationsAgree e4Configuration e4Configuration then
        .ok ({ e4Configuration with geometry := { e4Configuration.geometry with
          remappedVirtual := remapping.1, remappedPhysical := remapping.2 } }, [])
      else .error .noIndex) ∧
    ∀ other : List UInt8, other.length = 5 → other ≠ indexConfigVersion602 →
      other ≠ indexConfigVersion802 → ∀ bytes : List UInt8,
        (validateConfigContents sampleBufferCodes e4Configuration).run
            (indexConfigMagic ++ other ++ bytes) = .error .corruptComponent :=
  ⟨by decide, configContents_roundTrip sampleBufferCodes e4Configuration e4Configuration 4
    (by decide) []⟩

/-- A `bytes_per_page` of exactly 2^32 is saved as `0`. -/
def wideConfiguration : Configuration :=
  ⟨⟨4294967296, 256, 1024, 0, 0, 0⟩, 6, 7, 32, 42⟩

theorem configContents_bytesPerPage_truncated_wide :
    2 ^ 32 ≤ wideConfiguration.geometry.bytesPerPage.toNat ∧
    ∃ bytes, writeConfigContents sampleBufferCodes wideConfiguration 4 = .ok bytes ∧
      (validateConfigContents sampleBufferCodes wideConfiguration).run (bytes ++ []) =
        .error .noIndex :=
  ⟨by decide, configContents_bytesPerPage_truncated sampleBufferCodes wideConfiguration 4
    (by decide) []⟩

end Kvdo
