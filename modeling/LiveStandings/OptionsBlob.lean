/-
The `options` blob.  Its settings are length-prefixed records inside base64,
JSON, zlib and base64 again; decoding a blob that was so encoded gives its
settings, and one whose frame was cut short gives nothing.
-/
import LiveStandings.MapNames
import LiveStandings.Library.Framed
import LiveStandings.Library.Base64
import Mathlib.Data.List.Induction

namespace LiveStandings

open PyJson

/-- Encoders that the decoders of the standard library invert. -/
structure Encoders (codec : Codec) where
  b64encode : Bytes → String
  compress : Bytes → Bytes
  /-- `json.dumps(text).encode()` -/
  jsonDumps : String → Bytes
  b64decode_b64encode : ∀ bytes, codec.b64decode (b64encode bytes) = some bytes
  decompress_compress : ∀ bytes, codec.decompress (compress bytes) = some bytes
  jsonLoads_jsonDumps : ∀ text,
    codec.jsonLoads (jsonDumps text) = some (.str text)
  decodeUtf8_encode : ∀ text, codec.decodeUtf8 (encode text) = text

/-- The blob around a frame of records. -/
def Encoders.blob {codec : Codec} (encoders : Encoders codec) (inner : Bytes) :
    String :=
  encoders.b64encode (encoders.compress
    (encoders.jsonDumps (encoders.b64encode inner)))

/-- A setting as it stands in its record. -/
def optionEntry (pair : String × String) : String :=
  pair.1 ++ ":" ++ pair.2

/-- The count of the settings and then their records. -/
def innerFrame (pairs : List (String × String)) : Bytes :=
  UInt8.ofNat pairs.length ::
    Framed.frame (pairs.map fun pair => encode (optionEntry pair))

/-- A dict in which the last value of each key wins. -/
structure LastWins (pairs : List (String × String))
    (dict : Dict String String) : Prop where
  last : ∀ before key value after, pairs = before ++ (key, value) :: after →
    (∀ pair ∈ after, pair.1 ≠ key) → dict.get? key = some value
  absent : ∀ key, (∀ pair ∈ pairs, pair.1 ≠ key) → dict.get? key = none

/-- Settings that fit the format. -/
structure Encodable (pairs : List (String × String)) : Prop where
  count : pairs.length ≤ 255
  keys : ∀ pair ∈ pairs, ':' ∉ pair.1.toList
  short : ∀ pair ∈ pairs, (encode (optionEntry pair)).length < 2 ^ 32

section Decoding

variable {codec : Codec} {pairs : List (String × String)}

theorem lastWins_ofPairs (pairs : List (String × String)) :
    LastWins pairs (Dict.ofPairs pairs) where
  last := by
    rintro before key value after rfl hafter
    exact Dict.get?_ofPairs_last hafter
  absent := fun _ habsent => Dict.get?_ofPairs_absent habsent

/-- What the loop makes of a record. -/
def setRecord (codec : Codec) (pairs : Dict String String) (record : Bytes) :
    Dict String String :=
  let (key, value) := PyText.partition ':' (codec.decodeUtf8 record)
  pairs.set key value

/-- The loop splits the frame into its records and sets one after the other. -/
theorem readRecords_eq (codec : Codec) (count : Nat) (rest : Bytes)
    (pairs : Dict String String) :
    readRecords codec count rest pairs =
      (Framed.split count rest).map (·.foldl (setRecord codec) pairs) := by
  induction count generalizing rest pairs with
  | zero => rfl
  | succ count ih =>
      rw [readRecords, Framed.split]
      by_cases hlength : rest.length < 4
      · rw [if_pos hlength, if_pos hlength]
        rfl
      · rw [if_neg hlength, if_neg hlength]
        have hunpack : unpackU32 rest = Framed.unpack (rest.take 4) := rfl
        simp only [hunpack]
        by_cases hshort : (rest.drop 4).length < Framed.unpack (rest.take 4)
        · rw [if_pos hshort, if_pos hshort]
          rfl
        · rw [if_neg hshort, if_neg hshort, ih]
          cases Framed.split count
            ((rest.drop 4).drop (Framed.unpack (rest.take 4))) <;> rfl

theorem decodeMatchOptions_blob (encoders : Encoders codec) (inner : Bytes) :
    decodeMatchOptions codec (.str (encoders.blob inner)) =
      match inner with
      | [] => none
      | count :: records => readRecords codec count.toNat records [] := by
  cases inner <;>
    simp only [decodeMatchOptions, Encoders.blob, encoders.b64decode_b64encode,
      encoders.decompress_compress, encoders.jsonLoads_jsonDumps,
      Option.bind_eq_bind, Option.bind_some]

theorem setRecord_entry (encoders : Encoders codec)
    {pair : String × String} (hkey : ':' ∉ pair.1.toList)
    (dict : Dict String String) :
    setRecord codec dict (encode (optionEntry pair)) =
      dict.set pair.1 pair.2 := by
  have hpartition := PyText.partition_append hkey pair.2
  unfold setRecord
  rw [encoders.decodeUtf8_encode]
  have hentry : optionEntry pair = pair.1 ++ ':'.toString ++ pair.2 := rfl
  simp only [hentry, hpartition]

/-- Setting the records of the settings one after the other is their dict. -/
theorem foldl_setRecord (encoders : Encoders codec)
    (hkeys : ∀ pair ∈ pairs, ':' ∉ pair.1.toList) :
    (pairs.map fun pair => encode (optionEntry pair)).foldl (setRecord codec)
      [] = Dict.ofPairs pairs := by
  induction pairs using List.reverseRecOn with
  | nil => rfl
  | append_singleton pairs pair ih =>
      have hearlier := ih fun other hother =>
        hkeys other (List.mem_append_left _ hother)
      rw [List.map_append, List.foldl_append, hearlier, List.map_singleton,
        List.foldl_cons, List.foldl_nil,
        setRecord_entry encoders (hkeys pair (by simp))]
      simp [Dict.ofPairs, Dict.set]

theorem Encodable.toNat_count (hfit : Encodable pairs) :
    (UInt8.ofNat pairs.length).toNat = pairs.length := by
  have hcount := hfit.count
  rw [UInt8.toNat_ofNat']
  omega

theorem Encodable.short_records (hfit : Encodable pairs) :
    ∀ record ∈ pairs.map fun pair => encode (optionEntry pair),
      record.length < 2 ^ 32 := by
  intro record hrecord
  obtain ⟨pair, hpair, rfl⟩ := List.mem_map.mp hrecord
  exact hfit.short pair hpair

theorem decode_innerFrame (encoders : Encoders codec) (hfit : Encodable pairs) :
    decodeMatchOptions codec (.str (encoders.blob (innerFrame pairs))) =
      some (Dict.ofPairs pairs) := by
  have hsplit := Framed.split_frame hfit.short_records []
  rw [List.append_nil, List.length_map] at hsplit
  rw [decodeMatchOptions_blob, innerFrame]
  simp only
  rw [hfit.toNat_count, readRecords_eq, hsplit, Option.map_some,
    foldl_setRecord encoders hfit.keys]

theorem decode_cut (encoders : Encoders codec) (hfit : Encodable pairs)
    {cut : Bytes} (hcut : cut <+: innerFrame pairs)
    (hproper : cut ≠ innerFrame pairs) :
    decodeMatchOptions codec (.str (encoders.blob cut)) = none := by
  rw [decodeMatchOptions_blob]
  cases cut with
  | nil => rfl
  | cons count records =>
      rw [innerFrame, List.cons_prefix_cons] at hcut
      obtain ⟨rfl, hrecords⟩ := hcut
      have hne : records ≠ Framed.frame
          (pairs.map fun pair => encode (optionEntry pair)) :=
        fun heq => hproper (by rw [innerFrame, heq])
      have hsplit := Framed.split_of_cut hfit.short_records hrecords hne
      rw [List.length_map] at hsplit
      simp only
      rw [hfit.toNat_count, readRecords_eq, hsplit, Option.map_none]

end Decoding

/-- The decoder inverts the format: a blob gives back the settings it was made
of, the last value of each key, and nothing when its frame was cut short. -/
theorem options_decode_inverts {codec : Codec} (encoders : Encoders codec)
    {pairs : List (String × String)} (hfit : Encodable pairs) :
    (∃ dict, decodeMatchOptions codec
        (.str (encoders.blob (innerFrame pairs))) = some dict ∧
          LastWins pairs dict) ∧
      ∀ cut, cut <+: innerFrame pairs → cut ≠ innerFrame pairs →
        decodeMatchOptions codec (.str (encoders.blob cut)) = none :=
  ⟨⟨_, decode_innerFrame encoders hfit, lastWins_ofPairs pairs⟩,
    fun _ hcut hproper => decode_cut encoders hfit hcut hproper⟩

namespace OptionsWitness

/-- The two parts that a sum of bytes modulo 65521 carries. -/
def adlerStep (sums : Nat × Nat) (byte : UInt8) : Nat × Nat :=
  let low := (sums.1 + byte.toNat) % 65521
  (low, (sums.2 + low) % 65521)

/-- `adler32`, the highest byte first. -/
def adler32 (data : Bytes) : Bytes :=
  let (low, high) := data.foldl adlerStep (1, 0)
  [UInt8.ofNat (high / 256), UInt8.ofNat high, UInt8.ofNat (low / 256),
    UInt8.ofNat low]

/-- The header of a zlib stream of one stored block. -/
def storedHeader (length : Nat) : Bytes :=
  [0x78, 0x01, 0x01, UInt8.ofNat length, UInt8.ofNat (length / 256),
    UInt8.ofNat (65535 - length), UInt8.ofNat ((65535 - length) / 256)]

/-- A zlib stream that stores its data; what one block does not hold is kept
behind a zero byte instead. -/
def compress (data : Bytes) : Bytes :=
  if data.length < 65536 then
    storedHeader data.length ++ (data ++ adler32 data)
  else 0 :: data

/-- The data of a stream of one stored block. -/
def decompress (stream : Bytes) : Option Bytes :=
  match stream with
  | 0 :: data => some data
  | _ =>
      let data := (stream.drop 7).take (stream.length - 11)
      if stream = storedHeader data.length ++ (data ++ adler32 data) then
        some data
      else none

theorem decompress_compress (data : Bytes) :
    decompress (compress data) = some data := by
  unfold compress
  by_cases hlength : data.length < 65536
  · have hdata : ((storedHeader data.length ++ (data ++ adler32 data)).drop
        7).take ((storedHeader data.length ++
          (data ++ adler32 data)).length - 11) = data := by
      have hheader : (storedHeader data.length).length = 7 := rfl
      have hsum : (adler32 data).length = 4 := rfl
      rw [List.drop_left' hheader, List.length_append, List.length_append,
        hheader, hsum]
      apply List.take_left'
      omega
    rw [if_pos hlength, decompress.eq_def]
    split
    · next heq => cases heq
    · simp only [hdata, if_true]
  · rw [if_neg hlength]
    rfl

/-- UTF-8, where it is valid. -/
def decodeUtf8 (bytes : Bytes) : String := (PyText.decodeUtf8? bytes).getD ""

theorem decodeUtf8_encode (text : String) :
    decodeUtf8 (encode text) = text := by
  rw [decodeUtf8, encode, PyText.decodeUtf8?_toUTF8, Option.getD_some]

def jsonDumps (text : String) : Bytes := encode ("\"" ++ text ++ "\"")

/-- A JSON string without escapes. -/
def jsonLoads (bytes : Bytes) : Option Json :=
  match (decodeUtf8 bytes).toList with
  | '"' :: cs =>
      if cs.getLast? = some '"' then some (.str (String.ofList cs.dropLast))
      else none
  | _ => none

theorem jsonLoads_jsonDumps (text : String) :
    jsonLoads (jsonDumps text) = some (.str text) := by
  have hchars : (decodeUtf8 (jsonDumps text)).toList =
      '"' :: (text.toList ++ ['"']) := by
    rw [jsonDumps, decodeUtf8_encode]
    simp
  unfold jsonLoads
  rw [hchars]
  simp

def codec : Codec where
  b64decode := fun text => Base64.decode text.toList
  decompress := decompress
  jsonLoads := jsonLoads
  decodeUtf8 := decodeUtf8

def encoders : Encoders codec where
  b64encode := fun bytes => String.ofList (Base64.encode bytes)
  compress := compress
  jsonDumps := jsonDumps
  b64decode_b64encode := fun bytes => by
    simpa [codec] using Base64.decode_encode bytes
  decompress_compress := decompress_compress
  jsonLoads_jsonDumps := jsonLoads_jsonDumps
  decodeUtf8_encode := decodeUtf8_encode

/-- The map twice, and a value with a separator in it. -/
def settings : List (String × String) :=
  [("10", "10895"), ("8", "a:b"), ("10", "10878")]

theorem settings_encodable : Encodable settings := by
  refine ⟨by decide, by decide, ?_⟩
  simp only [encode, PyText.toList_eq]
  decide

end OptionsWitness

open OptionsWitness in
/-- The later of two maps wins, and the empty frame is refused. -/
theorem options_decode_inverts_settings :
    (∃ dict, decodeMatchOptions codec
        (.str (encoders.blob (innerFrame settings))) = some dict ∧
          dict.get? "10" = some "10878" ∧ dict.get? "8" = some "a:b") ∧
      decodeMatchOptions codec (.str (encoders.blob [3])) = none := by
  obtain ⟨⟨dict, hdict, hwins⟩, hcut⟩ :=
    options_decode_inverts encoders settings_encodable
  refine ⟨⟨dict, hdict, ?_, ?_⟩, ?_⟩
  · exact hwins.last [("10", "10895"), ("8", "a:b")] "10" "10878" [] rfl
      (by simp)
  · exact hwins.last [("10", "10895")] "8" "a:b" [("10", "10878")] rfl
      (by simp)
  · exact hcut [3] ⟨_, rfl⟩
      (by simp [innerFrame, settings, Framed.frame_cons, Framed.pack])

end LiveStandings
