/-
Upstream JSON to rows.  The parsers normalize names and types but check
little: a row keeps whatever value its field held, and it is the columns the
row is bound to that refuse it.
-/
import LiveStandings.MapNames
import LiveStandings.Library.Fallible

namespace LiveStandings

open PyJson Fallible

/-- The instants `datetime.fromtimestamp` can represent, in seconds. -/
def inDatetimeRange (seconds : Int) : Bool :=
  -62135596800 ≤ seconds && seconds ≤ 253402300799

/-- `_from_unix`. -/
def fromUnix (seconds : Json) : Except PyError (Option Instant) :=
  if !seconds.truthy then .ok none
  else
    match seconds.asInt? with
    | none => .error .typeError
    | some n =>
        if inDatetimeRange n then .ok (some (n * 1000000))
        else .error .valueError

/-- `_none_if_unranked`. -/
def noneIfUnranked (value : Json) : Json :=
  if value.asInt? = some (-1) then .null else value

/-- `_extract_steam_id`. -/
def extractSteamId (name : Json) : Except PyError Json :=
  if !name.truthy then .ok .null
  else
    match name with
    | .str text =>
        let stem := "/steam/".toList
        if stem.isPrefixOf text.toList then
          let rest := text.toList.drop stem.length
          .ok (if rest.isEmpty then .null else .str (String.ofList rest))
        else .ok .null
    | _ => .error .attributeError

/-- A player row of `parse_player_stats`. -/
structure PlayerDict where
  profileId : Json
  aliasName : Json
  country : Json
  steamId : Json
  level : Json
  xp : Json
  regionId : Json
  clanName : Json
deriving Repr

/-- A rating row of `parse_player_stats`. -/
structure RatingDict where
  profileId : Json
  leaderboardId : Json
  currentRating : Json
  maxRating : Json
  wins : Json
  losses : Json
  streak : Json
  drops : Json
  rank : Json
  rankTotal : Json
  regionRank : Json
  regionRankTotal : Json
  lastMatchAt : Option Instant
deriving Repr

/-- The row of one `statGroups` entry: its id and its first member. -/
def parseStatGroup (group : Json) :
    Except PyError (Option (Json × PlayerDict)) := do
  let members := (← group.get "members").orElse (.arr [])
  if !members.truthy then .ok none
  else
    let member ←
      match members with
      | .arr (first :: _) => .ok first
      | .str text => .ok (.str (String.ofList (text.toList.take 1)))
      | .obj _ => .error (.keyError "0")
      | _ => .error .typeError
    let profileId ← member.item "profile_id"
    let groupId ← group.item "id"
    let _ ← groupId.dictKey
    .ok (some (groupId, {
      profileId := profileId
      aliasName := ← member.getD "alias" (.str "")
      country := ← member.get "country"
      steamId := ← extractSteamId (← member.get "name")
      level := ← member.getD "level" (.int 0)
      xp := ← member.getD "xp" (.int 0)
      regionId := ← member.getD "leaderboardregion_id" (.int 0)
      clanName := (← member.get "clanlist_name").orElse .null }))

/-- `max(left, right)` of two values that are both numbers or both texts. -/
def pyMax (left right : Json) : Except PyError Json :=
  match left.asInt?, right.asInt? with
  | some l, some r => .ok (if l < r then right else left)
  | _, _ =>
      match left, right with
      | .str l, .str r => .ok (if l < r then right else left)
      | _, _ => .error .typeError

/-- The row of one `leaderboardStats` entry; `none` when its statgroup is
unknown. -/
def parseLeaderboardStat (statgroupToProfile : Dict DictKey Json) (row : Json) :
    Except PyError (Option RatingDict) := do
  let statgroup ← (← row.get "statgroup_id").dictKey
  match statgroupToProfile.get? statgroup with
  | none => .ok none
  | some .null => .ok none
  | some profileId => do
      let leaderboardId ← row.item "leaderboard_id"
      let currentRating ← row.getD "rating" (.int 0)
      let maxRating ← pyMax ((← row.get "highestrating").orElse (.int 0))
        ((← row.get "rating").orElse (.int 0))
      .ok (some {
        profileId := profileId
        leaderboardId := leaderboardId
        currentRating := currentRating
        maxRating := maxRating
        wins := ← row.getD "wins" (.int 0)
        losses := ← row.getD "losses" (.int 0)
        streak := ← row.getD "streak" (.int 0)
        drops := ← row.getD "drops" (.int 0)
        rank := noneIfUnranked (← row.get "rank")
        rankTotal := noneIfUnranked (← row.get "ranktotal")
        regionRank := noneIfUnranked (← row.get "regionrank")
        regionRankTotal := noneIfUnranked (← row.get "regionranktotal")
        lastMatchAt := ← fromUnix (← row.get "lastmatchdate") })

/-- `parse_player_stats`. -/
def parsePlayerStats (payload : Json) :
    Except PyError (List PlayerDict × List RatingDict) := do
  let groups ← (← payload.getD "statGroups" (.arr [])).iterate
  let parsed ← groups.mapM parseStatGroup
  let found := parsed.filterMap id
  let pairs ← found.mapM fun entry => do
    .ok (← entry.1.dictKey, entry.2.profileId)
  let stats ← (← payload.getD "leaderboardStats" (.arr [])).iterate
  let ratings ← stats.mapM (parseLeaderboardStat (Dict.ofPairs pairs))
  .ok (found.map (·.2), ratings.filterMap id)

/-- A match row of `parse_recent_matches` or `parse_live_advertisements`. -/
structure MatchDict where
  matchId : Json
  mapName : Json
  matchtypeId : Json
  leaderboardId : Option Int
  startedAt : Option Instant
  completedAt : Option Instant
  description : Json
  state : MatchState
deriving Repr

/-- A match-player row of `parse_recent_matches`. -/
structure MatchPlayerDict where
  matchId : Json
  profileId : Json
  civilizationId : Json
  teamId : Json
  outcome : Option MatchOutcome
  oldRating : Json
  newRating : Json
  xpGained : Json
deriving Repr

/-- An alias row of `parse_recent_matches`. -/
structure AliasDict where
  profileId : Json
  aliasName : Json
deriving Repr

/-- `_parse_outcome`. -/
def parseOutcome (resulttype : Json) : Option MatchOutcome :=
  if resulttype.asInt? = some 1 then some .win
  else if resulttype.asInt? = some 0 then some .loss
  else none

/-- The alias rows: profiles with an id and a non-blank alias. -/
def parseProfile (prof : Json) : Except PyError (Option AliasDict) := do
  if (← prof.get "profile_id").isNull then .ok none
  else if !(← prof.get "alias").truthy then .ok none
  else
    .ok (some {
      profileId := ← prof.item "profile_id"
      aliasName := ← prof.item "alias" })

/-- `leaderboard_for_matchtype.get(matchtype_id)`. -/
def leaderboardOf (mapping : Dict Int Int) (matchtypeId : Json) :
    Except PyError (Option Int) := do
  match ← matchtypeId.dictKey with
  | .int n => .ok (mapping.get? n)
  | _ => .ok none

/-- The match row of one `matchHistoryStats` entry. -/
def parseMatch (codec : Codec) (mapping : Dict Int Int) (raw : Json) :
    Except PyError MatchDict := do
  let matchId ← raw.item "id"
  let completedAt ← fromUnix (← raw.get "completiontime")
  .ok {
    matchId := matchId
    mapName := resolveMapName codec (← raw.get "options")
      (← raw.getD "mapname" (.str ""))
    matchtypeId := ← raw.getD "matchtype_id" (.int 0)
    leaderboardId := ← leaderboardOf mapping (← raw.get "matchtype_id")
    startedAt := ← fromUnix (← raw.get "startgametime")
    completedAt := completedAt
    description := ← raw.get "description"
    state := if completedAt.isSome then .completed else .inProgress }

/-- The match-player row of one `matchhistoryreportresults` entry, the civ
and the Elo deltas taken from the member row of its profile. -/
def parseResult (matchId : Json) (membersByProfile : Dict DictKey Json)
    (result : Json) : Except PyError MatchPlayerDict := do
  let profileId ← result.item "profile_id"
  let member := (membersByProfile.get? (← profileId.dictKey)).getD (.obj [])
  let reported ← result.getD "civilization_id" (.int unknownCivilizationId)
  .ok {
    matchId := matchId
    profileId := profileId
    civilizationId := ← member.getD "civilization_id" reported
    teamId := ← result.getD "teamid" (.int 0)
    outcome := parseOutcome (← result.get "resulttype")
    oldRating := ← member.get "oldrating"
    newRating := ← member.get "newrating"
    xpGained := ← result.getD "xpgained" (.int 0) }

/-- The match-player rows of one `matchHistoryStats` entry. -/
def parseResults (raw : Json) : Except PyError (List MatchPlayerDict) := do
  let matchId ← raw.item "id"
  let members ← (← raw.getD "matchhistorymember" (.arr [])).iterate
  let pairs ← members.mapM fun member => do
    .ok (← (← member.item "profile_id").dictKey, member)
  let results ← (← raw.getD "matchhistoryreportresults" (.arr [])).iterate
  results.mapM (parseResult matchId (Dict.ofPairs pairs))

/-- The rows of one `getRecentMatchHistory` payload. -/
structure RecentMatches where
  matchRows : List MatchDict
  players : List MatchPlayerDict
  aliases : List AliasDict
deriving Repr

/-- `parse_recent_matches`. -/
def parseRecentMatches (codec : Codec) (mapping : Dict Int Int)
    (payload : Json) : Except PyError RecentMatches := do
  let profiles ← (← payload.getD "profiles" (.arr [])).iterate
  let aliases ← profiles.mapM parseProfile
  let stats ← (← payload.getD "matchHistoryStats" (.arr [])).iterate
  let parsed ← stats.mapM fun raw => do
    .ok (← parseMatch codec mapping raw, ← parseResults raw)
  .ok {
    matchRows := parsed.map (·.1)
    players := parsed.flatMap (·.2)
    aliases := aliases.filterMap id }

/-- `int(value)`. -/
def toInt (value : Json) : Except PyError Int :=
  match value.asInt?, value with
  | some n, _ => .ok n
  | none, .str text =>
      match PyText.int? text with
      | some n => .ok n
      | none => .error .valueError
  | none, _ => .error .typeError

/-- `_leaderboard_matchtype_ids`. -/
def leaderboardMatchtypeIds (lb : Json) : Except PyError (List Json) := do
  let covered ← lb.get "leaderboardmap"
  if covered.truthy then
    (← covered.iterate).mapM fun entry => do
      .ok (.int (← toInt (← entry.item "matchtype_id")))
  else
    let legacy := (← lb.getD "matchtypes" (.arr [])).orElse (.arr [])
    (← legacy.iterate).mapM fun
      | .obj fields => (Json.obj fields).item "id"
      | mt => do .ok (.int (← toInt mt))

/-- A row of `parse_available_leaderboards`. -/
structure LeaderboardDict where
  leaderboardId : Json
  name : Json
  isRanked : Bool
  matchtypes : List Json
deriving Repr

/-- `parse_available_leaderboards`. -/
def parseAvailableLeaderboards (payload : Json) :
    Except PyError (List LeaderboardDict) := do
  (← (← payload.getD "leaderboards" (.arr [])).iterate).mapM fun lb => do
    .ok {
      leaderboardId := ← lb.item "id"
      name := ← lb.getD "name" (.str "")
      isRanked := (← lb.getD "isranked" (.int 0)).truthy
      matchtypes := ← leaderboardMatchtypeIds lb }

/-- A row of `parse_races`. -/
structure CivilizationDict where
  civilizationId : Json
  name : Json
deriving Repr

/-- `parse_races`. -/
def parseRaces (payload : Json) : Except PyError (List CivilizationDict) := do
  (← (← payload.getD "races" (.arr [])).iterate).mapM fun race => do
    .ok {
      civilizationId := ← race.item "id"
      name := ← race.getD "name" (.str "") }

/-- `DEFAULT_MATCHTYPE_TO_LEADERBOARD`. -/
def defaultMatchtypeToLeaderboard : Dict DictKey Json :=
  Dict.ofPairs (([(2, 1), (60, 1), (3, 2), (4, 2), (5, 2), (61, 2), (6, 3),
    (7, 4), (8, 4), (9, 4), (10, 5), (26, 13), (27, 14), (28, 14),
    (29, 14)] : List (Int × Int)).map fun entry =>
      (.int entry.1, .int entry.2))

/-- `matchtype_to_leaderboard_map`. -/
def matchtypeToLeaderboardMap (payload : Json) :
    Except PyError (Dict DictKey Json) := do
  (← (← payload.getD "leaderboards" (.arr [])).iterate).foldlM (fun mapping lb => do
    let leaderboardId ← lb.item "id"
    (← leaderboardMatchtypeIds lb).foldlM (fun mapping matchtypeId => do
      .ok (mapping.set (← matchtypeId.dictKey) leaderboardId)) mapping) []

theorem parseMatch_matchId {codec : Codec} {mapping : Dict Int Int}
    {raw : Json} {row : MatchDict}
    (hparse : parseMatch codec mapping raw = .ok row) :
    raw.item "id" = .ok row.matchId := by
  simp only [parseMatch, bind_eq_ok] at hparse
  obtain ⟨matchId, hid, _, _, _, _, _, _, _, _, _, _, _, _, _, _, _, _, _, _, _,
    _, hrow⟩ := hparse
  cases hrow
  exact hid

theorem parseResult_matchId {matchId result : Json}
    {members : Dict DictKey Json} {row : MatchPlayerDict}
    (hparse : parseResult matchId members result = .ok row) :
    row.matchId = matchId := by
  simp only [parseResult, bind_eq_ok] at hparse
  obtain ⟨_, _, _, _, _, _, _, _, _, _, _, _, _, _, _, _, _, _, hrow⟩ := hparse
  cases hrow
  rfl

theorem parseResults_matchId {raw : Json} {rows : List MatchPlayerDict}
    (hparse : parseResults raw = .ok rows) {row : MatchPlayerDict}
    (hrow : row ∈ rows) : raw.item "id" = .ok row.matchId := by
  simp only [parseResults, bind_eq_ok] at hparse
  obtain ⟨matchId, hid, _, _, _, _, _, _, _, _, _, _, hrows⟩ := hparse
  obtain ⟨result, _, hresult⟩ := exists_of_mem_mapM hrows hrow
  rw [parseResult_matchId hresult]
  exact hid

/-- `parse_recent_matches` reports players of the matches it reports. -/
theorem parseRecentMatches_player {codec : Codec} {mapping : Dict Int Int}
    {payload : Json} {parsed : RecentMatches}
    (hparse : parseRecentMatches codec mapping payload = .ok parsed)
    {row : MatchPlayerDict} (hrow : row ∈ parsed.players) :
    ∃ m ∈ parsed.matchRows, m.matchId = row.matchId := by
  simp only [parseRecentMatches, bind_eq_ok] at hparse
  obtain ⟨_, _, _, _, _, _, _, _, _, _, pairs, hpairs, hparsed⟩ := hparse
  cases hparsed
  obtain ⟨pair, hpair, hmem⟩ := List.mem_flatMap.mp hrow
  obtain ⟨raw, _, hraw⟩ := exists_of_mem_mapM hpairs hpair
  simp only [bind_eq_ok] at hraw
  obtain ⟨m, hmatch, players, hplayers, hraw⟩ := hraw
  cases hraw
  refine ⟨m, List.mem_map.mpr ⟨_, hpair, rfl⟩, ?_⟩
  have hsame := (parseMatch_matchId hmatch).symm.trans
    (parseResults_matchId hplayers hmem)
  exact Except.ok.inj hsame

/-- A row of `live_match_players` before it is bound. -/
structure LivePlayerDict where
  matchId : Json
  profileId : Json
deriving Repr

/-- Whether a member's profile is tracked; an unhashable id raises. -/
def trackedMember (tracked : List Int) (member : Json) :
    Except PyError (Option Json) := do
  match ← (← member.get "profile_id").dictKey with
  | .int n =>
      if tracked.contains n then .ok (some (← member.item "profile_id"))
      else .ok none
  | _ => .ok none

/-- The match row of one lobby and the links of its tracked members; `none`
when nobody in it is tracked or it has no id. -/
def parseAdvertisement (codec : Codec) (tracked : List Int) (now : Instant)
    (ad : Json) : Except PyError (Option (MatchDict × List LivePlayerDict)) := do
  let members ← ((← ad.get "matchmembers").orElse (.arr [])).iterate
  let trackedMembers := (← members.mapM (trackedMember tracked)).filterMap id
  if trackedMembers.isEmpty then .ok none
  else
    let matchId ← ad.getD "id" (← ad.get "match_id")
    if matchId.isNull then .ok none
    else
      let mapName := resolveMapName codec (← ad.get "options")
        (← ad.getD "mapname" (.str ""))
      let matchtypeId ← ad.getD "matchtype_id" (.int 0)
      let createdAt ← fromUnix (← ad.get "creation_time")
      let description ← ad.get "description"
      let state ← ad.getD "state" (.int 0)
      .ok (some ({
        matchId := matchId
        mapName := mapName
        matchtypeId := matchtypeId
        leaderboardId := none
        startedAt := some (createdAt.getD now)
        completedAt := none
        description := description
        state := if state.asInt? = some 0 then .staging else .inProgress },
        trackedMembers.map fun profileId => ⟨matchId, profileId⟩))

/-- `parse_live_advertisements`. -/
def parseLiveAdvertisements (codec : Codec) (tracked : List Int)
    (now : Instant) (payload : Json) :
    Except PyError (List MatchDict × List LivePlayerDict) := do
  let ads ← (((← payload.get "matches").orElse
    (← payload.get "advertisements")).orElse (.arr [])).iterate
  let parsed := (← ads.mapM (parseAdvertisement codec tracked now)).filterMap id
  .ok (parsed.map (·.1), parsed.flatMap (·.2))

end LiveStandings
