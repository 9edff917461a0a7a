/-
One team for each player.  The reads of the standings rely on it, and every
write keeps it but one: `add_team_member` searches only the team it adds to.
-/
import LiveStandings.ManagementRuns
import LiveStandings.Standings

namespace LiveStandings

open KeyedTable PyJson Runs Ranking Fallible

/-- Every roster row has at most one membership. -/
def OneMembership (db : Database) : Prop :=
  ∀ left ∈ db.teamMembers.rows, ∀ right ∈ db.teamMembers.rows,
    left.tournamentPlayerId = right.tournamentPlayerId → left = right

/-- What the reads of a tournament's teams rely on: a roster row has one
membership, it is assigned that team, and nobody counts in two teams. -/
structure OneTeamEach (db : Database) : Prop where
  one_membership : OneMembership db
  assigned : ∀ t, ∀ row ∈ db.teamMembers.rows, ∀ team ∈ db.teams.rows,
    row.teamId = team.id → team.tournamentId = t.id →
      teamByTournamentPlayer db t row.tournamentPlayerId =
        some ⟨team.id, team.name, team.initials⟩
  counted_once : ∀ t names now,
    ∀ left ∈ (getTeamStandings db t names now).items,
      ∀ right ∈ (getTeamStandings db t names now).items,
        ∀ l ∈ left.members, ∀ r ∈ right.members,
          l.tournamentPlayerId = r.tournamentPlayerId ∨
              l.profileId = r.profileId ∧ l.profileId ≠ none →
            left.teamId = right.teamId

section Reads

variable {db : Database} {t : Tournament}

/-- With one membership for each row, the map of teams is not ambiguous. -/
theorem OneMembership.assigned (hone : OneMembership db) {row : TeamMember}
    {team : Team} (hrow : row ∈ db.teamMembers.rows)
    (hteam : team ∈ db.teams.rows) (hid : row.teamId = team.id)
    (htournament : team.tournamentId = t.id) :
    teamByTournamentPlayer db t row.tournamentPlayerId =
      some ⟨team.id, team.name, team.initials⟩ := by
  have hjoin : (db.teams.find? row.teamId).filter (·.tournamentId = t.id) =
      some team := by
    rw [hid, db.teams.find?_key hteam, Option.filter_some, if_pos]
    simpa using htournament
  unfold teamByTournamentPlayer
  cases hlast : (db.teamMembers.rows.filterMap fun member =>
      if member.tournamentPlayerId = row.tournamentPlayerId then
        (db.teams.find? member.teamId).filter (·.tournamentId = t.id)
      else none).getLast? with
  | none =>
      have hnone := List.filterMap_eq_nil_iff.mp
        (List.getLast?_eq_none_iff.mp hlast) row hrow
      rw [if_pos rfl, hjoin] at hnone
      cases hnone
  | some found =>
      obtain ⟨member, hmember, hfound⟩ :=
        List.mem_filterMap.mp (List.mem_of_getLast? hlast)
      split at hfound
      · next hsame =>
          rw [hone member hmember row hrow hsame, hjoin] at hfound
          cases hfound
          rfl
      · cases hfound

/-- A line of the team standings is a member of that team. -/
theorem mem_teamStandings {names : Dict Int String} {now : Instant}
    {line : TeamStandingRow} {read : TeamMemberRead}
    (hline : line ∈ (getTeamStandings db t names now).items)
    (hread : read ∈ line.members) :
    ∃ member ∈ db.teamMembers.rows, ∃ entry ∈ db.tournamentPlayers.rows,
      ∃ team ∈ db.teams.rows, member.teamId = team.id ∧
        team.id = line.teamId ∧ team.tournamentId = t.id ∧
          member.tournamentPlayerId = entry.id ∧
            entry.id = read.tournamentPlayerId ∧
              entry.profileId = read.profileId := by
  obtain ⟨team, hteam, rfl⟩ :=
    List.mem_map.mp ((mem_sortBy _).mp hline)
  obtain ⟨row, hrow, rfl⟩ := List.mem_map.mp ((mem_sortBy _).mp hread)
  obtain ⟨hrow, hid⟩ := List.mem_filter.mp hrow
  obtain ⟨hteam, htournament⟩ := List.mem_filter.mp hteam
  obtain ⟨hmember, hfind, _⟩ := mem_memberEntries.mp
    (List.mem_map_of_mem hrow)
  have hentry := Table.key_of_find? _ hfind
  exact ⟨row.member, hmember, row.entry, Table.mem_of_find? _ hfind, team,
    hteam, by simpa using hid, rfl, by simpa using htournament, hentry.symm,
    rfl, rfl⟩

theorem OneMembership.oneTeamEach {registry : Registry}
    (hmanaged : Managed registry) (hone : OneMembership registry.db) :
    OneTeamEach registry.db := by
  constructor
  · exact hone
  · exact fun t row hrow team hteam => hone.assigned hrow hteam
  · intro t names now left hleft right hright l hl r hr hsame
    obtain ⟨lm, hlm, le, hle, lt, hlt, hlTeam, hlId, hlTournament, hlEntry,
      hlRead, hlProfile⟩ := mem_teamStandings hleft hl
    obtain ⟨rm, hrm, re, hre, rt, hrt, hrTeam, hrId, hrTournament, hrEntry,
      hrRead, hrProfile⟩ := mem_teamStandings hright hr
    have hentries : le.id = re.id := by
      rcases hsame with hid | ⟨hprofile, hlinked⟩
      · rw [hlRead, hrRead, hid]
      · -- both entries are on the roster of `t`
        have hlt' := hmanaged.member_tournament lm hlm lt hlt le hle hlTeam
          hlEntry
        have hrt' := hmanaged.member_tournament rm hrm rt hrt re hre hrTeam
          hrEntry
        apply hmanaged.profile_unique le hle re hre
        · rw [hlt', hrt', hlTournament, hrTournament]
        · rw [hlProfile, hrProfile, hprofile]
        · rwa [hlProfile]
    have hmembers := hone lm hlm rm hrm
      (hlEntry.trans (hentries.trans hrEntry.symm))
    rw [← hlId, ← hrId, ← hlTeam, ← hrTeam, hmembers]

end Reads

theorem OneMembership.keepsMembers {before after : Database}
    (hone : OneMembership before) (hkeeps : KeepsMembers before after) :
    OneMembership after := by
  intro left hleft right hright hsame
  obtain ⟨l, hl, hlKey⟩ := hkeeps left hleft
  obtain ⟨r, hr, hrKey⟩ := hkeeps right hright
  have hids : l.tournamentPlayerId = r.tournamentPlayerId :=
    (congrArg Prod.snd hlKey).trans
      (hsame.trans (congrArg Prod.snd hrKey).symm)
  apply after.teamMembers.eq_of_key_eq hleft hright
  rw [← hlKey, ← hrKey, hone l hl r hr hids]

section Requests

variable {platform : Platform} {http : Request} {registry : Registry}

/-- A roster row that is not on the team is added to it. -/
theorem addTeamMember_free {team : Team} {payload : TeamMemberRef}
    {entry : TournamentPlayer}
    (hresolve : resolveRosterRow registry.db team.tournamentId
      payload.tournamentPlayerId = .ok entry)
    (hfree : registry.db.teamMembers.find? (team.id, entry.id) = none) :
    addTeamMember team payload registry =
      .ok (noContent, { registry with
        db := { registry.db with
          teamMembers := registry.db.teamMembers.insertNew
            ⟨team.id, entry.id, false⟩ } }) := by
  unfold addTeamMember
  rw [hresolve]
  change (if (registry.db.teamMembers.find? (team.id, entry.id)).isSome then
    _ else _) = _
  rw [hfree]
  rfl

/-- The roster row a request adds to a team is on no other team. -/
def AddsUnteamed (platform : Platform) (registry : Registry) :
    ManagementAct → Prop
  | .request ⟨http, .addTeamMember slug teamId payload⟩ =>
      ∀ team valid counted entry,
        teamRoute platform http registry slug teamId "add_team_member" 20
            payload = .ok (team, valid, counted) →
          resolveRosterRow registry.db team.tournamentId
              valid.tournamentPlayerId = .ok entry →
            ∀ row ∈ registry.db.teamMembers.rows,
              row.tournamentPlayerId = entry.id → row.teamId = team.id
  | _ => True

theorem addsUnteamed_of_addsMember {call : ManagementCall}
    (hcall : call.addsMember = false) :
    AddsUnteamed platform registry (.request ⟨http, call⟩) := by
  cases call with
  | addTeamMember slug teamId payload => cases hcall
  | _ => trivial

/-- `add_team_member` keeps the memberships single exactly where the row it
adds is on no other team. -/
theorem oneMembership_addTeamMember {slug : String} {teamId : Int}
    {payload : Except BodyError TeamMemberRef}
    (hone : OneMembership registry.db) :
    OneMembership ((ManagementCall.addTeamMember slug teamId payload).answer
        platform http registry).2.db ↔
      AddsUnteamed platform registry
        (.request ⟨http, .addTeamMember slug teamId payload⟩) := by
  constructor
  · intro hafter team valid counted entry hroute hresolve row hrow hsame
    by_contra hother
    obtain ⟨_, _, hits, rfl⟩ := admitted_ok hroute
    have hfree : registry.db.teamMembers.find? (team.id, entry.id) = none := by
      rw [Option.eq_none_iff_forall_ne_some]
      intro member hfind
      have hkey := Table.key_of_find? _ hfind
      have hmember := hone member (Table.mem_of_find? _ hfind) row hrow
        ((congrArg Prod.snd hkey).trans hsame.symm)
      exact hother (hmember ▸ congrArg Prod.fst hkey)
    have hanswer : ((ManagementCall.addTeamMember slug teamId payload).answer
        platform http registry).2.db.teamMembers =
          registry.db.teamMembers.insertNew ⟨team.id, entry.id, false⟩ := by
      change (routed (teamRoute platform http registry slug teamId
        "add_team_member" 20 payload) addTeamMember
          registry).2.db.teamMembers = _
      have hadded : addTeamMember team valid { registry with hits := hits } =
          _ := addTeamMember_free hresolve hfree
      rw [hroute, routed, hadded]
    have hnew : ⟨team.id, entry.id, false⟩ ∈
        (registry.db.teamMembers.insertNew
          ⟨team.id, entry.id, false⟩).rows := by
      refine (Table.mem_insertNew _).mpr (Or.inr ⟨rfl, ?_⟩)
      rw [Table.mem_keys_iff, TeamMember.key, hfree]
      simp
    rw [OneMembership, hanswer] at hafter
    have heq := hafter row ((Table.mem_insertNew _).mpr (Or.inl hrow)) _ hnew
      hsame
    exact hother (congrArg TeamMember.teamId heq)
  · intro hguard
    apply routed_invariant (fun after => OneMembership after.db) hone
    · exact fun _ => hone
    · intro team valid hits response committed hroute hok
      obtain ⟨_, entry, hresolve, hfree, rfl⟩ := addTeamMember_ok hok
      have hunteamed : ∀ row ∈ registry.db.teamMembers.rows,
          row.tournamentPlayerId ≠ entry.id := by
        intro row hrow hsame
        have hteam := hguard team valid _ entry hroute hresolve row hrow
          hsame
        have hfind := registry.db.teamMembers.find?_key hrow
        rw [TeamMember.key, hteam, hsame, hfree] at hfind
        cases hfind
      exact registry.db.teamMembers.forall_pairs_insertNew hone
        (fun row hrow => ⟨fun hsame => absurd hsame (hunteamed row hrow),
          fun hsame => absurd hsame.symm (hunteamed row hrow)⟩) fun _ => rfl

end Requests

/-- A step keeps the memberships single exactly where the row it adds to a team
is on no other. -/
theorem ManagementStep.oneMembership {platform : Platform}
    {registry registry' : Registry} {act : ManagementAct}
    (hone : OneMembership registry.db)
    (hstep : ManagementStep platform registry act registry') :
    OneMembership registry'.db ↔ AddsUnteamed platform registry act := by
  cases hstep with
  | elapse _ hsame =>
      unfold OneMembership
      rw [hsame.members]
      exact iff_of_true hone trivial
  | request request =>
      obtain ⟨http, call⟩ := request
      cases hcall : call.addsMember with
      | true =>
          cases call with
          | addTeamMember slug teamId payload =>
              exact oneMembership_addTeamMember hone
          | _ => cases hcall
      | false =>
          exact iff_of_true
            (hone.keepsMembers (call.answer_frame.members hcall))
            (addsUnteamed_of_addsMember hcall)

/-- While every request to add a member is about a row on no other team, every
player is on one team; the first that is not puts a player on two. -/
theorem one_team_each (platform : Platform) {start registry : Registry}
    {acts : List ManagementAct} (hempty : NoTournaments start.db)
    (hrun : Run (Guarded (AddsUnteamed platform) (ManagementStep platform))
      start acts registry) :
    OneTeamEach registry.db ∧ ∀ act registry',
      ManagementStep platform registry act registry' →
        (OneTeamEach registry'.db ↔ AddsUnteamed platform registry act) := by
  have hinv : Managed registry ∧ OneMembership registry.db := by
    refine hrun.invariant
      (fun registry => Managed registry ∧ OneMembership registry.db) ?_ ?_
    · refine ⟨hempty.managed, ?_⟩
      simp [OneMembership, hempty.members]
    · rintro before act after ⟨hmanaged, hone⟩ ⟨hguard, hstep⟩
      exact ⟨hstep.managed hmanaged, (hstep.oneMembership hone).mpr hguard⟩
  obtain ⟨hmanaged, hone⟩ := hinv
  refine ⟨hone.oneTeamEach hmanaged, fun act registry' hstep => ?_⟩
  rw [← hstep.oneMembership hone]
  exact ⟨OneTeamEach.one_membership,
    fun hafter => hafter.oneTeamEach (hstep.managed hmanaged)⟩

namespace TeamMembershipWitness

open ManagementWitness ManagementRunWitness

/-- A tournament with one entry and two teams. -/
def setup : List ManagementRequest :=
  [request (.createTournament (.ok springCup)),
    request (.addRosterPlayer "spring-cup" (.ok alice)),
    request (.createTeam "spring-cup" (.ok teamA)),
    request (.createTeam "spring-cup"
      (.ok ⟨"Team B", "B", by decide, by decide⟩))]

/-- The entry joins a team. -/
def join (teamId : Int) : ManagementRequest :=
  request (.addTeamMember "spring-cup" teamId (.ok firstEntry))

theorem guarded_oneTeam :
    Run (Guarded (AddsUnteamed platform) (ManagementStep platform)) registry
      (setup.map .request ++ [.request (join 1)]) (after (setup ++ [join 1])) := by
  have hsetup : ∀ request ∈ setup, request.call.addsMember = false := by
    decide
  refine (run_after _ setup fun earlier request hearlier => ?_).snoc
    ⟨?_, step_after setup (join 1)⟩
  · exact addsUnteamed_of_addsMember
      (hsetup request (hearlier.subset (by simp)))
  · -- nobody is on a team yet
    have hnone : (after setup).db.teamMembers.rows = [] := by decide
    intro _ _ _ _ _ _ row hrow
    rw [hnone] at hrow
    cases hrow

end TeamMembershipWitness

open ManagementWitness ManagementRunWitness TeamMembershipWitness in
/-- With one membership the player is on one team. -/
theorem one_team_each_first :
    (after (setup ++ [join 1])).db.teamMembers.rows = [⟨1, 1, false⟩] ∧
      OneTeamEach (after (setup ++ [join 1])).db :=
  ⟨by decide, (one_team_each platform noTournaments guarded_oneTeam).1⟩

open ManagementWitness ManagementRunWitness TeamMembershipWitness in
/-- A second membership puts the player on two teams. -/
theorem player_on_two_teams :
    ¬ ∀ (platform : Platform) (start registry : Registry)
      (acts : List ManagementAct), NoTournaments start.db →
        Run (ManagementStep platform) start acts registry →
          OneTeamEach registry.db := by
  intro hclaim
  have hone := hclaim platform registry _ _ noTournaments
    (guarded_oneTeam.unguarded.snoc (step_after _ (join 2)))
  have hrows : (after (setup ++ [join 1] ++ [join 2])).db.teamMembers.rows =
      [⟨1, 1, false⟩, ⟨2, 1, false⟩] := by decide
  have hsingle := hone.one_membership
  rw [OneMembership, hrows] at hsingle
  have heq := hsingle ⟨1, 1, false⟩ (by decide) ⟨2, 1, false⟩ (by decide) rfl
  cases heq

end LiveStandings
