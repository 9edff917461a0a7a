/-
The map name of a match.  The upstream `mapname` is unreliable, the locstring
id in the `options` blob is not; whatever does not decode falls back to
`mapname`.
-/
import LiveStandings.Idempotency
import LiveStandings.Library.PyText

namespace LiveStandings

open PyJson

/-- The decoders of the standard library; `none` is an exception. -/
structure Codec where
  b64decode : String → Option Bytes
  decompress : Bytes → Option Bytes
  jsonLoads : Bytes → Option Json
  /-- `decode("utf-8", errors="replace")` -/
  decodeUtf8 : Bytes → String

/-- `MAP_NAME_BY_LOCSTRING_ID`. -/
def mapNameByLocstringId : List (Int × String) :=
  [(10875, "Arabia"), (10878, "Black Forest"), (10882, "Fortress"),
    (10883, "Gold Rush"), (10884, "Highland"), (10886, "Mediterranean"),
    (10887, "Migration"), (10889, "Team Islands"), (10892, "Mongolia"),
    (10894, "Yucatan"), (10895, "Arena"), (10897, "Oasis"), (10901, "Nomad"),
    (10915, "Budapest"), (10919, "Hideout"), (10920, "Hill Fort"),
    (10921, "Lombardia"), (10924, "MegaRandom"), (10926, "CtR Random"),
    (10931, "Four Lakes"), (10932, "Land Nomad"), (10938, "Amazon Tunnel"),
    (10939, "Coastal Forest"), (10940, "African Clearing"),
    (10941, "Atacama"), (10945, "Michi"), (10949, "Eruption"),
    (10952, "Lowland"), (10953, "Marketplace"), (10956, "Northern Isles"),
    (10960, "Enclosed"), (10961, "Haboob"), (10963, "Land Madness"),
    (10966, "Morass"), (10968, "Cliffbound"), (10969, "Isthmus"),
    (10973, "River Divide"), (10978, "Karsts"), (10979, "Glade"),
    (10980, "Fortified Clearing"), (10994, "Seasons"),
    (10995, "Sherwood Forest"), (11005, "QS Runestones"),
    (11006, "QS Arena"), (11012, "Border Dispute"), (11013, "Graupel"),
    (301100, "Kilimanjaro"), (301104, "Socotra"), (301111, "Bohemia"),
    (301153, "Snake Forest")]

/-- `struct.unpack_from("<I", ...)` on the bytes at hand. -/
def unpackU32 (bytes : Bytes) : Nat :=
  (bytes.take 4).foldr (fun byte value => byte.toNat + 256 * value) 0

/-- The loop over the records; `rest` is the frame from `pos` on. -/
def readRecords (codec : Codec) :
    Nat → Bytes → Dict String String → Option (Dict String String)
  | 0, _, pairs => some pairs
  | count + 1, rest, pairs =>
      if rest.length < 4 then none
      else
        let length := unpackU32 rest
        let entries := rest.drop 4
        if entries.length < length then none
        else
          let (key, value) :=
            PyText.partition ':' (codec.decodeUtf8 (entries.take length))
          readRecords codec count (entries.drop length) (pairs.set key value)

/-- `decode_match_options`.  A value that is no string makes `b64decode`
raise, which is caught like everything else. -/
def decodeMatchOptions (codec : Codec) (optionsB64 : Json) :
    Option (Dict String String) := do
  match optionsB64 with
  | .str text =>
      let raw ← codec.decompress (← codec.b64decode text)
      match ← codec.jsonLoads raw with
      | .str wrapped =>
          match ← codec.b64decode wrapped with
          | [] => none
          | count :: records => readRecords codec count.toNat records []
      | _ => none
  | _ => none

/-- `resolve_map_name`. -/
def resolveMapName (codec : Codec) (optionsB64 fallback : Json) : Json :=
  if !optionsB64.truthy then fallback
  else
    match decodeMatchOptions codec optionsB64 with
    | none => fallback
    | some pairs =>
        match PyText.int? ((pairs.get? "10").getD "") with
        | none => fallback
        | some locstringId =>
            if locstringId ≤ 0 then fallback
            else
              match mapNameByLocstringId.lookup locstringId with
              | some name => .str name
              | none => fallback

end LiveStandings
