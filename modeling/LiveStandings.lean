import LiveStandings.Library.KeyedTable
import LiveStandings.Library.PyJson
import LiveStandings.Library.PyText
import LiveStandings.Library.Fallible
import LiveStandings.Library.Ranking
import LiveStandings.Library.Highest
import LiveStandings.Library.Sweep
import LiveStandings.Library.ChangeLog
import LiveStandings.Library.Overlay
import LiveStandings.Library.Runs
import LiveStandings.Library.BoundedQueue
import LiveStandings.Models
import LiveStandings.Idempotency
import LiveStandings.Management
import LiveStandings.IdempotencyRuns
import LiveStandings.IdempotencyCallers
import LiveStandings.Events
import LiveStandings.EventHub
import LiveStandings.NudgeDelivery
import LiveStandings.MapNames
import LiveStandings.Parsers
import LiveStandings.Upserts
import LiveStandings.Pollers
import LiveStandings.BatchIsolation
import LiveStandings.Records
import LiveStandings.Standings
import LiveStandings.EntrantData
import LiveStandings.NudgeScope
import LiveStandings.FinalTable
import LiveStandings.History
import LiveStandings.HistorySweep
import LiveStandings.HistoryEndpoint
import LiveStandings.HistoryReplay
import LiveStandings.HistoryLive
import LiveStandings.HistoryFrozen
import LiveStandings.HistoryWrites
import LiveStandings.HistoryAppendOnly
import LiveStandings.Roster
import LiveStandings.Owners
import LiveStandings.Teams
import LiveStandings.TournamentEdits
import LiveStandings.ManagementCalls
import LiveStandings.ManagementInvariants
import LiveStandings.TeamInvariants
import LiveStandings.ManagementRuns
import LiveStandings.TeamMembership
import LiveStandings.OwnerCasing
import LiveStandings.WindowRaces
import LiveStandings.RosterRaces
import LiveStandings.MatchWrites
import LiveStandings.RatingRecorder
import LiveStandings.LeaderboardLoader
import LiveStandings.MatchTags
import LiveStandings.MatchPlayerRows
import LiveStandings.Library.LongestRun
import LiveStandings.WinStreaks
import LiveStandings.Library.Tally
import LiveStandings.CivStats
import LiveStandings.HistoryRanking
import LiveStandings.HistoryPeaks
import LiveStandings.FinalCurrent
import LiveStandings.Summary
import LiveStandings.HeadToHead
import LiveStandings.SameGames
import LiveStandings.Library.Framed
import LiveStandings.Library.Base64
import LiveStandings.OptionsBlob
import LiveStandings.Library.Redaction
import LiveStandings.SentryScrub
import LiveStandings.Library.Delimited
import LiveStandings.FingerprintClash
import LiveStandings.StatsRows
import LiveStandings.NameBackfill
import LiveStandings.WindowEdits
import LiveStandings.Library.InvertedIndex
import LiveStandings.Library.Partitioned
import LiveStandings.Broadcast
import LiveStandings.LiveStreams
import LiveStandings.PlatformSnapshots
import LiveStandings.ChannelOrder
import LiveStandings.LiveRaces
import LiveStandings.Library.ForeignKeys
import LiveStandings.Deployment
import LiveStandings.Library.Slices
import LiveStandings.TenantIsolation
import LiveStandings.KeyRotation
import LiveStandings.Library.TtlCache
import LiveStandings.UsersClient
import LiveStandings.Library.JsonText
import LiveStandings.Library.EventStream
import LiveStandings.Stream
import LiveStandings.BroadcastClients
import LiveStandings.ChannelCache
import LiveStandings.RosterUnification
import LiveStandings.MemberRekey
import LiveStandings.CivilizationNames
import LiveStandings.Library.Pages
import LiveStandings.MatchReads
import LiveStandings.PlayerReads
import LiveStandings.TournamentReads
import LiveStandings.Progression
