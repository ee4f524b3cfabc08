import AiPowerGateway.Collections.HashMap
import AiPowerGateway.LanClient.Gateway

/-!
# Discovery of leaders

Leaders announce themselves by UDP broadcast.  A member keeps the last announcement of
every leader under the leader's id, and lists the leaders in the order of their ids; who
has been silent for longer than the threshold is listed as offline.
-/

namespace AiPowerGateway.LanClient

/-- `name@ip:port` -/
def LeaderInfo.id (leader : LeaderInfo) : String :=
  leader.name ++ "@" ++ leader.address ++ ":" ++ toString leader.apiPort

structure DiscoveryConfig where
  /-- In seconds. -/
  onlineThresholdSecs : UInt64 := 30

structure DiscoveryClient where
  cfg : DiscoveryConfig := {}
  leaders : HashMap LeaderInfo := ∅

/-- A datagram on the discovery port: its text, the address it came from, and the clock. -/
structure Datagram where
  text : String
  address : String
  now : UInt64
  deriving DecidableEq, Repr

/-! ## Announcements -/

/-- The unsigned integer of a field. -/
def portField? (value : Json) (key : String) : Option UInt64 :=
  (value.get? key).bind Json.asU64?

/-- The leader of an announcement; there is none without a name or a port. -/
def announced? (parsed : Json) (address : String) (now : UInt64) : Option LeaderInfo :=
  if parsed.text? "type" = some "AIPG_ANNOUNCE" then
    let name := (parsed.text? "name").getD ""
    let apiPort := ((portField? parsed "api_port").getD 0).toUInt16
    let sharePort := ((portField? parsed "share_port").map UInt64.toUInt16).filter (0 < ·)
    let fingerprint := (parsed.text? "fingerprint").getD ""
    if name = "" ∨ apiPort = 0 then none
    else some { name, apiPort, sharePort, fingerprint, address, lastSeen := now, online := true }
  else none

section Listening

variable (fromStr : String → Option Json)

/-- The leader that a datagram announces; `fromStr` is `serde_json::from_str`. -/
def Datagram.leader? (datagram : Datagram) : Option LeaderInfo :=
  let trimmed := Text.trim datagram.text
  if trimmed = "AIPG_PING" then none
  else (fromStr trimmed).bind (announced? · datagram.address datagram.now)

def handleAnnounce (client : DiscoveryClient) (datagram : Datagram) : DiscoveryClient :=
  match datagram.leader? fromStr with
  | none => client
  | some info => { client with leaders := client.leaders.insert info.id info }

/-- The listener: every datagram it receives. -/
def startListen (client : DiscoveryClient) (datagrams : List Datagram) : DiscoveryClient :=
  datagrams.foldl (handleAnnounce fromStr) client

end Listening

/-- The datagram is an announcement with a name. -/
structure Datagram.Announces (fromStr : String → Option Json) (datagram : Datagram)
    (parsed : Json) : Prop where
  notPing : Text.trim datagram.text ≠ "AIPG_PING"
  parses : fromStr (Text.trim datagram.text) = some parsed
  type : parsed.text? "type" = some "AIPG_ANNOUNCE"
  named : (parsed.text? "name").getD "" ≠ ""

theorem Datagram.announces_of_leader? {fromStr : String → Option Json} {datagram : Datagram}
    {leader : LeaderInfo} (heard : datagram.leader? fromStr = some leader) :
    ∃ parsed, datagram.Announces fromStr parsed := by
  rw [Datagram.leader?] at heard
  split at heard
  · cases heard
  · next notPing =>
    obtain ⟨parsed, parses, announced⟩ := Option.bind_eq_some_iff.mp heard
    rw [announced?] at announced
    split at announced
    · next type =>
      refine ⟨parsed, notPing, parses, type, fun nameless => ?_⟩
      rw [if_pos (Or.inl nameless)] at announced
      cases announced
    · cases announced

/-- The leader of an announcement with a name. -/
theorem Datagram.Announces.leader?_eq_some_iff {fromStr : String → Option Json}
    {datagram : Datagram} {parsed : Json} (announces : datagram.Announces fromStr parsed)
    {leader : LeaderInfo} :
    datagram.leader? fromStr = some leader ↔
      ((portField? parsed "api_port").getD 0).toUInt16 ≠ 0 ∧
        leader =
          { name := (parsed.text? "name").getD ""
            apiPort := ((portField? parsed "api_port").getD 0).toUInt16
            sharePort := ((portField? parsed "share_port").map UInt64.toUInt16).filter (0 < ·)
            fingerprint := (parsed.text? "fingerprint").getD ""
            address := datagram.address, lastSeen := datagram.now, online := true } := by
  rw [Datagram.leader?, if_neg announces.notPing, announces.parses, Option.bind_some, announced?,
    if_pos announces.type]
  simp only [announces.named, false_or]
  split
  · next dropped => simp [dropped]
  · next kept => rw [Option.some_inj, and_iff_right kept, eq_comm]

/-! ## The list of leaders -/

/-- How long ago, and no time at all when the clock went back. -/
def sinceSeen (now lastSeen : UInt64) : UInt64 := if lastSeen ≤ now then now - lastSeen else 0

namespace DiscoveryClient

/-- The leader as it is listed at an instant. -/
def listed (client : DiscoveryClient) (now : UInt64) (leader : LeaderInfo) : LeaderInfo :=
  { leader with online := sinceSeen now leader.lastSeen ≤ client.cfg.onlineThresholdSecs }

/-- The source's `leaders`. -/
def leadersAt (client : DiscoveryClient) (now : UInt64) : List LeaderInfo :=
  (client.leaders.values.map (client.listed now)).mergeSort
    fun first second => first.id ≤ second.id

/-- The key of an entry is the id of its leader. -/
def KeyedById (client : DiscoveryClient) : Prop :=
  ∀ key leader, client.leaders.lookup key = some leader → leader.id = key

@[simp] theorem id_listed (client : DiscoveryClient) (now : UInt64) (leader : LeaderInfo) :
    (client.listed now leader).id = leader.id := rfl

theorem keyedById_new (cfg : DiscoveryConfig) : KeyedById { cfg } := by
  intro key leader found
  cases found

variable {client : DiscoveryClient}

theorem KeyedById.handleAnnounce (keyed : client.KeyedById) (fromStr : String → Option Json)
    (datagram : Datagram) : (handleAnnounce fromStr client datagram).KeyedById := by
  intro key leader found
  rw [LanClient.handleAnnounce] at found
  cases announced : datagram.leader? fromStr with
  | none =>
      rw [announced] at found
      exact keyed key leader found
  | some info =>
      rw [announced] at found
      by_cases same : key = info.id
      · subst same
        rw [AList.lookup_insert] at found
        rw [← Option.some.inj found]
      · rw [AList.lookup_insert_ne same] at found
        exact keyed key leader found

theorem KeyedById.startListen (keyed : client.KeyedById) (fromStr : String → Option Json)
    (datagrams : List Datagram) : (startListen fromStr client datagrams).KeyedById := by
  induction datagrams generalizing client with
  | nil => exact keyed
  | cons datagram rest ih => exact ih (keyed.handleAnnounce fromStr datagram)

theorem mem_leadersAt {now : UInt64} {leader : LeaderInfo} :
    leader ∈ client.leadersAt now ↔
      ∃ stored ∈ client.leaders.values, client.listed now stored = leader := by
  rw [leadersAt, List.mem_mergeSort, List.mem_map]

theorem sorted_leadersAt (client : DiscoveryClient) (now : UInt64) :
    (client.leadersAt now).Pairwise fun first second => first.id ≤ second.id := by
  refine (List.pairwise_mergeSort ?_ ?_ _).imp of_decide_eq_true
  · intro first second third le ge
    exact decide_eq_true (le_trans (of_decide_eq_true le) (of_decide_eq_true ge))
  · intro first second
    rw [Bool.or_eq_true, decide_eq_true_eq, decide_eq_true_eq]
    exact le_total _ _

/-- A leader is listed once, and the list is in the strict order of the ids. -/
theorem KeyedById.sorted (keyed : client.KeyedById) (now : UInt64) :
    (client.leadersAt now).Pairwise fun first second => first.id < second.id := by
  have keys : client.leaders.values.map LeaderInfo.id = client.leaders.keys := by
    rw [HashMap.values, List.map_map]
    refine List.map_congr_left fun entry mem => ?_
    exact keyed entry.fst entry.snd (AList.mem_lookup_iff.mpr mem)
  have ids : ((client.leadersAt now).map LeaderInfo.id).Nodup := by
    have perm := (List.mergeSort_perm (client.leaders.values.map (client.listed now))
      fun first second => first.id ≤ second.id).map LeaderInfo.id
    rw [leadersAt, perm.nodup_iff, List.map_map]
    exact keys ▸ client.leaders.keys_nodup
  have distinct : (client.leadersAt now).Pairwise fun first second => first.id ≠ second.id :=
    List.pairwise_map.mp ids
  exact ((client.sorted_leadersAt now).and distinct).imp fun both => lt_of_le_of_ne both.1 both.2

end DiscoveryClient

end AiPowerGateway.LanClient
