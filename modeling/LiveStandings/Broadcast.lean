/-
Broadcast detection: the channels the roster and the hosts list, and which of
them Twitch and YouTube report live.
-/
import LiveStandings.Models
import LiveStandings.Library.InvertedIndex

namespace LiveStandings

open KeyedTable PyJson InvertedIndex

/-- What the clients use of Python's text library: the netloc and the path of
`urlparse`, which raises `ValueError` for some texts, and `str.lower`. -/
structure TextLibrary where
  urlparse : String → Option (String × String)
  lower : String → String

/-- `LiveStreamMeta`. -/
structure LiveStreamMeta where
  title : Option String
  category : Option String
deriving Repr, DecidableEq

/-- `extract_stream_urls`. -/
def extractStreamUrls (presentation : List (String × Json)) : List String :=
  presentation.flatMap fun item =>
    match item.2 with
    | .str text => [text]
    | .arr items => items.filterMap fun item =>
        match item with
        | .str text => some text
        | _ => none
    | _ => []

/-- `_TWITCH_RESERVED`. -/
def twitchReserved : List String :=
  ["videos", "directory", "p", "settings", "subscriptions", "downloads"]

/-- `netloc.lower().removeprefix("www.")`. -/
def TextLibrary.site (library : TextLibrary) (netloc : String) : String :=
  let cs := (library.lower netloc).toList
  if "www.".toList.isPrefixOf cs then String.ofList (cs.drop 4)
  else String.ofList cs

/-- `[s for s in path.split("/") if s]`. -/
def segments (path : String) : List String :=
  ((path.toList.splitOn '/').filter (!·.isEmpty)).map String.ofList

/-- `parse_twitch_login`. -/
def parseTwitchLogin (library : TextLibrary) (url : String) : Option String :=
  match library.urlparse url with
  | none => none
  | some (netloc, path) =>
      if library.site netloc ≠ "twitch.tv" then none
      else
        match segments path with
        | [] => none
        | first :: _ =>
            if twitchReserved.contains (library.lower first) then none
            else some (library.lower first)

/-- `parse_youtube_ref`. -/
def parseYoutubeRef (library : TextLibrary) (url : String) :
    Option (String × String) :=
  match library.urlparse url with
  | none => none
  | some (netloc, path) =>
      if library.site netloc ∉ ["youtube.com", "m.youtube.com"] then none
      else
        match segments path with
        | [] => none
        | first :: rest =>
            if first = "channel" && !rest.isEmpty then
              some ("channel_id", rest.headD "")
            else if first.toList.head? = some '@' then some ("handle", first)
            else if first = "user" && !rest.isEmpty then
              some ("username", rest.headD "")
            else none

/-- Why a cycle fails: its upstream, or its write. -/
inductive CycleError where
  | upstream
  | write (error : PyError)
deriving Repr, DecidableEq

/-- A row of Helix's `/streams`. -/
structure HelixStream where
  userLogin : String
  type : Option String
  title : Option String
  gameName : Option String
deriving Repr, DecidableEq

/-- `row.get("type") == "live"`. -/
def HelixStream.live (row : HelixStream) : Bool := row.type = some "live"

/-- `value or None`. -/
def textOrNone (value : Option String) : Option String := value.filter (· ≠ "")

def HelixStream.meta (row : HelixStream) : LiveStreamMeta :=
  ⟨textOrNone row.title, textOrNone row.gameName⟩

/-- `row["user_login"].lower()`. -/
def HelixStream.login (library : TextLibrary) (row : HelixStream) : String :=
  library.lower row.userLogin

/-- `_TWITCH_STREAMS_BATCH`. -/
def twitchStreamsBatch : Nat := 100

/-- What Helix answers a batch of logins, the retry with a new token
included. -/
abbrev Helix := List String → Except CycleError (List HelixStream)

/-- The items `_live_batch` puts into its dict. -/
def livePairs (library : TextLibrary) (response : List HelixStream) :
    List (String × LiveStreamMeta) :=
  (response.filter (·.live)).map fun row => (row.login library, row.meta)

/-- `TwitchLiveClient._live_batch`. -/
def liveBatch (library : TextLibrary) (helix : Helix) (batch : List String) :
    Except CycleError (OrderedDict String LiveStreamMeta) := do
  .ok (ofPairs (livePairs library (← helix batch)))

/-- `TwitchLiveClient.get_live_streams`. -/
def getLiveStreams (library : TextLibrary) (helix : Helix)
    (logins : List String) :
    Except CycleError (OrderedDict String LiveStreamMeta) :=
  (batches twitchStreamsBatch logins).foldlM (fun live batch => do
    .ok (live.overwriteAll (← liveBatch library helix batch).rows)) Table.empty

/-- What the YouTube Data API answers: a handle's or user's channel, and what
a channel is broadcasting.  A failed request counts as nothing found. -/
structure YouTube where
  lookup : String → String → Except CycleError (Option String)
  search : String → Except CycleError (Option (Option String))

/-- `YouTubeLiveClient._resolve_channel_id`. -/
def resolveChannelId (youtube : YouTube) (ref : String × String) :
    Except CycleError (Option String) :=
  if ref.1 = "channel_id" then .ok (some ref.2)
  else
    youtube.lookup (if ref.1 = "handle" then "forHandle" else "forUsername")
      ref.2

/-- `YouTubeLiveClient._live_meta`. -/
def liveMeta (youtube : YouTube) (channelId : String) :
    Except CycleError (Option LiveStreamMeta) := do
  .ok ((← youtube.search channelId).map fun title => ⟨textOrNone title, none⟩)

/-- One turn of `get_live_refs`. -/
def addLiveRef (youtube : YouTube)
    (live : OrderedDict (String × String) LiveStreamMeta)
    (ref : String × String) :
    Except CycleError (OrderedDict (String × String) LiveStreamMeta) := do
  match ← resolveChannelId youtube ref with
  | none => .ok live
  | some channelId =>
      match ← liveMeta youtube channelId with
      | none => .ok live
      | some value => .ok (live.overwrite (ref, value))

/-- `YouTubeLiveClient.get_live_refs`. -/
def getLiveRefs (youtube : YouTube) (refs : List (String × String)) :
    Except CycleError (OrderedDict (String × String) LiveStreamMeta) :=
  refs.foldlM (addLiveRef youtube) Table.empty

/-- URLs without repetitions, in order. -/
def distinctUrls (urls : List String) : List String := urls.foldl addKey []

/-- `get_host_stream_urls_by_tournament`. -/
def getHostStreamUrlsByTournament (db : Database) :
    OrderedDict Int (List String) :=
  ofPairs ((db.tournaments.rows.filter (!·.hostStreamUrls.isEmpty)).map
    fun row => (row.id, distinctUrls row.hostStreamUrls))

/-- `get_stream_urls_by_roster_row`. -/
def getStreamUrlsByRosterRow (db : Database) : OrderedDict Int (List String) :=
  ofPairs ((db.tournamentPlayers.rows.filter fun row =>
    !(extractStreamUrls row.presentation).isEmpty).map fun row =>
      (row.id, distinctUrls (extractStreamUrls row.presentation)))

theorem entry_of_streamUrls {db : Database} {id : Int} {urls : List String}
    (hurls : get? (getStreamUrlsByRosterRow db) id = some urls) :
    ∃ entry ∈ db.tournamentPlayers.rows, entry.id = id := by
  obtain ⟨entry, hentry, heq⟩ := List.mem_map.mp (mem_of_get?_ofPairs hurls)
  exact ⟨entry, (List.mem_filter.mp hentry).1, congrArg Prod.fst heq⟩

theorem tournament_of_hostUrls {db : Database} {id : Int} {urls : List String}
    (hurls : get? (getHostStreamUrlsByTournament db) id = some urls) :
    ∃ row ∈ db.tournaments.rows, row.id = id := by
  obtain ⟨row, hrow, heq⟩ := List.mem_map.mp (mem_of_get?_ofPairs hurls)
  exact ⟨row, (List.mem_filter.mp hrow).1, congrArg Prod.fst heq⟩

end LiveStandings
