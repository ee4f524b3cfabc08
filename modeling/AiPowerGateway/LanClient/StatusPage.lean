import AiPowerGateway.Collections.StableOrder
import AiPowerGateway.LanClient.Discovery

/-!
# The leader on the status page

The status page shows the first leader in the order of ids that is online; requests go to
the leader that was seen last.  With several leaders the page can name another leader than
the one that is used.
-/

namespace AiPowerGateway.LanClient

/-- Name, address and the port that requests go to. -/
def LeaderInfo.summary (leader : LeaderInfo) : String :=
  leader.name ++ "@" ++ leader.address ++ ":" ++
    toString ((leader.sharePort.filter (0 < ·)).getD leader.apiPort)

namespace MemberGateway

def leaderSummary (gateway : MemberGateway) : String :=
  match gateway.staticLeader with
  | some leader => "[deep-link] " ++ leader.summary
  | none =>
      match gateway.leaders.find? LeaderInfo.online with
      | some leader => leader.summary
      | none => if gateway.leaders.isEmpty then "none" else "offline"

/-- The status page names the leader that is used. -/
structure NamesLeader (gateway : MemberGateway) : Prop where
  named : ∀ leader, gateway.pickLeader = some leader →
    gateway.leaderSummary =
      (if gateway.staticLeader.isSome then "[deep-link] " else "") ++ leader.summary
  absent : gateway.pickLeader = none →
    gateway.leaderSummary = "none" ∨ gateway.leaderSummary = "offline"
  /-- By discovery the leader that was seen last is used. -/
  latest : gateway.staticLeader = none → ∀ leader, gateway.pickLeader = some leader →
    leader ∈ gateway.leaders ∧ leader.online = true ∧
      ∀ other ∈ gateway.leaders, other.online = true → other.lastSeen ≤ leader.lastSeen

theorem namesLeader_of_static {gateway : MemberGateway} {leader : LeaderInfo}
    (deepLink : gateway.staticLeader = some leader) : gateway.NamesLeader where
  named picked pick := by
    rw [pickLeader, deepLink] at pick
    obtain rfl := Option.some.inj pick
    rw [leaderSummary, deepLink]
    rfl
  absent none := by
    rw [pickLeader, deepLink] at none
    cases none
  latest discovery := by
    rw [deepLink] at discovery
    cases discovery

/-- What is picked from a list in strict order of the ids. -/
structure IsPicked (leaders : List LeaderInfo) (leader : LeaderInfo) : Prop where
  mem : leader ∈ leaders
  online : leader.online = true
  latest : ∀ other ∈ leaders, other.online = true → other.lastSeen ≤ leader.lastSeen
  first : ∀ other ∈ leaders, other.online = true → other.lastSeen = leader.lastSeen →
    leader.id ≤ other.id

theorem isPicked_of_pickLeader {gateway : MemberGateway} {leader : LeaderInfo}
    (discovery : gateway.staticLeader = none)
    (sorted : gateway.leaders.Pairwise fun first second => first.id < second.id)
    (pick : gateway.pickLeader = some leader) : IsPicked gateway.leaders leader := by
  rw [pickLeader, discovery] at pick
  have ordered := sorted.filter LeaderInfo.online
  have distinct : (gateway.leaders.filter LeaderInfo.online).Nodup := by
    refine ordered.imp ?_
    rintro first _ before rfl
    exact lt_irrefl _ before
  have trans (first second third : LeaderInfo)
      (le : decide (second.lastSeen ≤ first.lastSeen) = true)
      (ge : decide (third.lastSeen ≤ second.lastSeen) = true) :
      decide (third.lastSeen ≤ first.lastSeen) = true :=
    decide_eq_true (UInt64.le_trans (of_decide_eq_true ge) (of_decide_eq_true le))
  have total (first second : LeaderInfo) :
      (decide (second.lastSeen ≤ first.lastSeen) ||
        decide (first.lastSeen ≤ second.lastSeen)) = true := by
    rw [Bool.or_eq_true, decide_eq_true_eq, decide_eq_true_eq]
    exact UInt64.le_total _ _
  obtain ⟨mem, beats⟩ := StableOrder.head_mergeSort trans total ordered distinct pick
  obtain ⟨listed, online⟩ := List.mem_filter.mp mem
  refine ⟨listed, online, fun other otherMem otherOnline => ?_,
    fun other otherMem otherOnline same => ?_⟩
  · by_cases equal : other = leader
    · rw [equal]
      exact UInt64.le_refl _
    · exact of_decide_eq_true
        (beats other (List.mem_filter.mpr ⟨otherMem, otherOnline⟩) equal).1
  · by_cases equal : other = leader
    · rw [equal]
    · refine le_of_lt ((beats other (List.mem_filter.mpr ⟨otherMem, otherOnline⟩) equal).2 ?_)
      exact decide_eq_true (by rw [same]; exact UInt64.le_refl _)

/-- No leader is picked exactly when none is online. -/
theorem pickLeader_eq_none_iff {gateway : MemberGateway} (discovery : gateway.staticLeader = none) :
    gateway.pickLeader = none ↔ gateway.leaders.find? LeaderInfo.online = none := by
  rw [pickLeader, discovery]
  simp only [List.head?_eq_none_iff]
  rw [← List.length_eq_zero_iff, List.length_mergeSort, List.length_eq_zero_iff,
    List.filter_eq_nil_iff, List.find?_eq_none]

end MemberGateway

/-! ## The table behind the list -/

namespace DiscoveryClient

/-- The gateway over the leaders that are listed at an instant. -/
def gatewayAt (client : DiscoveryClient) (staticLeader : Option LeaderInfo)
    (encrypt : Link.LinkEncryptMode) (now : UInt64) : MemberGateway :=
  { leaders := client.leadersAt now, staticLeader, encrypt }

/-- An announced leader that is not silent for longer than the threshold. -/
structure OnlineAt (client : DiscoveryClient) (now : UInt64) (leader : LeaderInfo) : Prop where
  stored : leader ∈ client.leaders.values
  recent : sinceSeen now leader.lastSeen ≤ client.cfg.onlineThresholdSecs

/-- The first leader in the order of the ids that is online. -/
structure FirstById (client : DiscoveryClient) (now : UInt64) (leader : LeaderInfo) : Prop where
  online : client.OnlineAt now leader
  least : ∀ other, client.OnlineAt now other → leader.id ≤ other.id

/-- Among those online the leader that was seen last, and of several the first in the order
of the ids. -/
structure SeenLast (client : DiscoveryClient) (now : UInt64) (leader : LeaderInfo) : Prop where
  online : client.OnlineAt now leader
  latest : ∀ other, client.OnlineAt now other → other.lastSeen ≤ leader.lastSeen
  least : ∀ other, client.OnlineAt now other → other.lastSeen = leader.lastSeen →
    leader.id ≤ other.id

variable {client : DiscoveryClient} {now : UInt64}

theorem KeyedById.eq_of_id_eq (keyed : client.KeyedById) {first second : LeaderInfo}
    (firstMem : first ∈ client.leaders.values) (secondMem : second ∈ client.leaders.values)
    (same : first.id = second.id) : first = second := by
  obtain ⟨key, found⟩ := HashMap.mem_values.mp firstMem
  obtain ⟨other, otherFound⟩ := HashMap.mem_values.mp secondMem
  have keys : key = other := by
    rw [← keyed key first found, ← keyed other second otherFound, same]
  rw [keys, otherFound] at found
  exact (Option.some.inj found).symm

theorem KeyedById.firstById_unique (keyed : client.KeyedById) {first second : LeaderInfo}
    (one : client.FirstById now first) (other : client.FirstById now second) : first = second :=
  keyed.eq_of_id_eq one.online.stored other.online.stored
    (le_antisymm (one.least second other.online) (other.least first one.online))

theorem KeyedById.seenLast_unique (keyed : client.KeyedById) {first second : LeaderInfo}
    (one : client.SeenLast now first) (other : client.SeenLast now second) : first = second := by
  have seen : first.lastSeen = second.lastSeen :=
    UInt64.le_antisymm (other.latest first one.online) (one.latest second other.online)
  exact keyed.eq_of_id_eq one.online.stored other.online.stored
    (le_antisymm (one.least second other.online seen.symm) (other.least first one.online seen))

/-- The leaders listed as online are the listed ones of those that are. -/
theorem online_listed_iff {stored : LeaderInfo} (mem : stored ∈ client.leaders.values) :
    (client.listed now stored).online = true ↔ client.OnlineAt now stored := by
  rw [listed, decide_eq_true_eq]
  exact ⟨fun recent => ⟨mem, recent⟩, OnlineAt.recent⟩

/-- A listed online leader comes from the table, with the same id, address and ports. -/
theorem exists_of_mem_leadersAt {leader : LeaderInfo} (mem : leader ∈ client.leadersAt now)
    (online : leader.online = true) :
    ∃ stored, client.OnlineAt now stored ∧ leader = client.listed now stored := by
  obtain ⟨stored, storedMem, rfl⟩ := mem_leadersAt.mp mem
  exact ⟨stored, (online_listed_iff storedMem).mp online, rfl⟩

theorem OnlineAt.mem_leadersAt {stored : LeaderInfo} (online : client.OnlineAt now stored) :
    client.listed now stored ∈ client.leadersAt now :=
  DiscoveryClient.mem_leadersAt.mpr ⟨stored, online.stored, rfl⟩

theorem OnlineAt.online_listed {stored : LeaderInfo} (online : client.OnlineAt now stored) :
    (client.listed now stored).online = true := (online_listed_iff online.stored).mpr online

/-- The status page scans for the first leader by id. -/
theorem KeyedById.firstById_of_find? (keyed : client.KeyedById) {leader : LeaderInfo}
    (found : (client.leadersAt now).find? LeaderInfo.online = some leader) :
    ∃ stored, client.FirstById now stored ∧ leader = client.listed now stored := by
  obtain ⟨online, before, after, split, offline⟩ := List.find?_eq_some_iff_append.mp found
  obtain ⟨stored, storedOnline, rfl⟩ :=
    exists_of_mem_leadersAt (List.mem_of_find?_eq_some found) online
  refine ⟨stored, ⟨storedOnline, fun other otherOnline => ?_⟩, rfl⟩
  have sorted := keyed.sorted now
  have mem := otherOnline.mem_leadersAt
  rw [split] at sorted mem
  rcases List.mem_append.mp mem with inFront | behind
  · simpa [otherOnline.online_listed] using offline _ inFront
  · rcases List.mem_cons.mp behind with same | later
    · exact le_of_eq (congrArg LeaderInfo.id same).symm
    · have greater : stored.id < (client.listed now other).id :=
        List.rel_of_pairwise_cons (List.pairwise_append.mp sorted).2.1 later
      exact le_of_lt greater

/-- The gateway picks the leader that was seen last. -/
theorem seenLast_of_isPicked {leader : LeaderInfo}
    (picked : MemberGateway.IsPicked (client.leadersAt now) leader) :
    ∃ stored, client.SeenLast now stored ∧ leader = client.listed now stored := by
  obtain ⟨stored, online, rfl⟩ := exists_of_mem_leadersAt picked.mem picked.online
  refine ⟨stored, ⟨online, fun other otherOnline => ?_, fun other otherOnline same => ?_⟩, rfl⟩
  · exact picked.latest (client.listed now other) otherOnline.mem_leadersAt
      otherOnline.online_listed
  · exact picked.first (client.listed now other) otherOnline.mem_leadersAt
      otherOnline.online_listed same

/-- Every entry that is online is listed, so a scan that fails has none. -/
theorem not_onlineAt_of_find? (absent : (client.leadersAt now).find? LeaderInfo.online = none)
    (leader : LeaderInfo) : ¬ client.OnlineAt now leader := fun online =>
  List.find?_eq_none.mp absent _ online.mem_leadersAt online.online_listed

end DiscoveryClient

/-! ## Over every run -/

/-- The first leader by id and the one that was seen last have the same name, address and
port. -/
def SameSummary (client : DiscoveryClient) (now : UInt64) : Prop :=
  ∀ first latest, client.FirstById now first → client.SeenLast now latest →
    first.summary = latest.summary

/-- Without an online leader no leader is used, and none is named. -/
theorem DiscoveryClient.namesLeader_of_offline {client : DiscoveryClient} {now : UInt64}
    (offline : (client.leadersAt now).find? LeaderInfo.online = none)
    (encrypt : Link.LinkEncryptMode) : (client.gatewayAt none encrypt now).NamesLeader := by
  have idle : (client.gatewayAt none encrypt now).pickLeader = none :=
    (MemberGateway.pickLeader_eq_none_iff rfl).mpr offline
  refine ⟨fun leader pick => ?_, fun _ => ?_, fun _ leader pick => ?_⟩
  · rw [idle] at pick
    cases pick
  · rw [MemberGateway.leaderSummary]
    simp only [DiscoveryClient.gatewayAt, offline]
    exact ite_eq_or_eq _ _ _
  · rw [idle] at pick
    cases pick

theorem DiscoveryClient.KeyedById.namesLeader_iff {client : DiscoveryClient}
    (keyed : client.KeyedById) (encrypt : Link.LinkEncryptMode) (now : UInt64) :
    (client.gatewayAt none encrypt now).NamesLeader ↔ SameSummary client now := by
  have sorted := keyed.sorted now
  cases found : (client.leadersAt now).find? LeaderInfo.online with
  | none =>
      refine iff_of_true (DiscoveryClient.namesLeader_of_offline found encrypt) ?_
      exact fun first _ isFirst _ =>
        absurd isFirst.online (DiscoveryClient.not_onlineAt_of_find? found first)
  | some shown =>
      have summary : (client.gatewayAt none encrypt now).leaderSummary = shown.summary := by
        rw [MemberGateway.leaderSummary]
        simp only [DiscoveryClient.gatewayAt, found]
      obtain ⟨leader, pick⟩ : ∃ leader,
          (client.gatewayAt none encrypt now).pickLeader = some leader := by
        rw [← Option.ne_none_iff_exists', Ne, MemberGateway.pickLeader_eq_none_iff rfl]
        simp only [DiscoveryClient.gatewayAt, found]
        exact Option.some_ne_none shown
      have picked := MemberGateway.isPicked_of_pickLeader rfl sorted pick
      obtain ⟨first, isFirst, rfl⟩ := keyed.firstById_of_find? found
      obtain ⟨latest, seenLast, rfl⟩ := DiscoveryClient.seenLast_of_isPicked picked
      constructor
      · intro names other newest otherFirst newestLast
        rw [keyed.firstById_unique otherFirst isFirst, keyed.seenLast_unique newestLast seenLast]
        have same := names.named _ pick
        rw [summary] at same
        exact same.trans (String.empty_append ..)
      · intro same
        refine ⟨fun leader again => ?_, fun idle => ?_, fun _ leader again => ?_⟩
        · obtain rfl := Option.some.inj (pick.symm.trans again)
          rw [summary]
          exact (same first latest isFirst seenLast).trans (String.empty_append ..).symm
        · rw [pick] at idle
          cases idle
        · obtain rfl := Option.some.inj (pick.symm.trans again)
          exact ⟨picked.mem, picked.online, picked.latest⟩

/--
The status page names the leader that is used, after any announcements and at any
instant, exactly when a deep link sets the leader or the first leader by id and the one
seen last read alike.
-/
theorem status_names_leader_iff (fromStr : String → Option Json) (cfg : DiscoveryConfig)
    (datagrams : List Datagram) (staticLeader : Option LeaderInfo)
    (encrypt : Link.LinkEncryptMode) (now : UInt64) :
    ((startListen fromStr { cfg } datagrams).gatewayAt staticLeader encrypt now).NamesLeader ↔
      staticLeader.isSome = true ∨ SameSummary (startListen fromStr { cfg } datagrams) now := by
  cases staticLeader with
  | some leader =>
      exact iff_of_true (MemberGateway.namesLeader_of_static rfl) (Or.inl rfl)
  | none =>
      have keyed := (DiscoveryClient.keyedById_new cfg).startListen fromStr datagrams
      rw [Option.isSome_none, or_iff_right Bool.false_ne_true]
      exact keyed.namesLeader_iff encrypt now

def alpha : LeaderInfo where
  name := "alpha"
  apiPort := 39091
  sharePort := some 39092
  fingerprint := ""
  address := "192.168.1.5"
  lastSeen := 1000
  online := true

def beta : LeaderInfo :=
  { alpha with name := "beta", address := "192.168.1.6", lastSeen := 1005 }

/-- Reads the announcements of `alpha` and `beta`. -/
def announcedByName (text : String) : Option Json :=
  if text = "alpha" ∨ text = "beta" then
    some (.obj [("type", .str "AIPG_ANNOUNCE"), ("name", .str text),
      ("api_port", .num (.posInt 39091)), ("share_port", .num (.posInt 39092))])
  else none

/-- Two leaders announce themselves, `beta` five seconds later; it is a second after that. -/
def twoLeaders : MemberGateway :=
  (startListen announcedByName {}
    [⟨"alpha", "192.168.1.5", 1000⟩, ⟨"beta", "192.168.1.6", 1005⟩]).gatewayAt none .off 1006

theorem leaders_twoLeaders : twoLeaders.leaders = [alpha, beta] := by
  have values : (startListen announcedByName {} [⟨"alpha", "192.168.1.5", 1000⟩,
      ⟨"beta", "192.168.1.6", 1005⟩]).leaders.values = [beta, alpha] := by decide
  rw [twoLeaders, DiscoveryClient.gatewayAt, DiscoveryClient.leadersAt, values]
  simp only [List.map_cons, List.map_nil, StableOrder.mergeSort_pair]
  decide

theorem pickLeader_twoLeaders : twoLeaders.pickLeader = some beta := by
  have discovery : twoLeaders.staticLeader = none := rfl
  have online : [alpha, beta].filter LeaderInfo.online = [alpha, beta] := by decide
  rw [MemberGateway.pickLeader, discovery, leaders_twoLeaders, online]
  simp only [StableOrder.mergeSort_pair]
  decide

/-- The page shows `alpha` while requests go to `beta`. -/
theorem other_leader_named :
    twoLeaders.leaderSummary = "alpha@192.168.1.5:39092" ∧
      twoLeaders.pickLeader = some beta ∧ ¬ twoLeaders.NamesLeader := by
  have shown : twoLeaders.leaderSummary = "alpha@192.168.1.5:39092" := by
    rw [MemberGateway.leaderSummary, leaders_twoLeaders]
    decide
  refine ⟨shown, pickLeader_twoLeaders, fun names => ?_⟩
  have same := names.named beta pickLeader_twoLeaders
  rw [shown] at same
  exact absurd same (by decide)

end AiPowerGateway.LanClient
