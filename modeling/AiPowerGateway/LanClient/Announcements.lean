import AiPowerGateway.LanClient.Discovery
import AiPowerGateway.Share.Broadcast
import AiPowerGateway.Share.Host

/-!
# Announcements from end to end

A leader prints its announcement and broadcasts the bytes; a member reads whatever arrives
on the port, in whatever order and as often as the network delivers it.  The list of a
member holds exactly the leaders it has heard, each with its last announcement.
-/

namespace AiPowerGateway.LanClient

open Share

/-! ## What is heard last -/

section Listening

variable (fromStr : String → Option Json) (cfg : DiscoveryConfig)

@[simp] theorem cfg_startListen (client : DiscoveryClient) (datagrams : List Datagram) :
    (startListen fromStr client datagrams).cfg = client.cfg := by
  induction datagrams generalizing client with
  | nil => rfl
  | cons datagram rest ih =>
      refine (ih (handleAnnounce fromStr client datagram)).trans ?_
      rw [handleAnnounce]
      split <;> rfl

/-- What a datagram writes under an id. -/
def Datagram.writes (id : String) (datagram : Datagram) : Option LeaderInfo :=
  (datagram.leader? fromStr).filter (·.id = id)

theorem lookup_handleAnnounce (client : DiscoveryClient) (datagram : Datagram) (id : String) :
    (handleAnnounce fromStr client datagram).leaders.lookup id =
      (datagram.writes fromStr id).or (client.leaders.lookup id) := by
  rw [handleAnnounce, Datagram.writes]
  cases announced : datagram.leader? fromStr with
  | none => rfl
  | some info =>
      by_cases same : info.id = id
      · subst same
        simp [Option.filter_some, AList.lookup_insert]
      · simp [Option.filter_some, same, AList.lookup_insert_ne (Ne.symm same)]

/-- Under an id stands the last leader that was announced with it. -/
theorem lookup_startListen {datagrams : List Datagram} {id : String} {leader : LeaderInfo} :
    (startListen fromStr { cfg } datagrams).leaders.lookup id = some leader ↔
      ∃ before datagram after, datagrams = before ++ datagram :: after ∧
        datagram.writes fromStr id = some leader ∧
        ∀ later ∈ after, later.writes fromStr id = none := by
  have last := HashMap.foldl_lastWriter (fun client => client.leaders.lookup id)
    (Datagram.writes fromStr id) (fun client datagram =>
      lookup_handleAnnounce fromStr client datagram id) datagrams { cfg }
  rw [startListen, last, show AList.lookup id (∅ : HashMap LeaderInfo) = none from rfl,
    Option.or_none, List.findSome?_eq_some_iff]
  constructor
  · rintro ⟨after, datagram, before, reversed, writes, silent⟩
    refine ⟨before.reverse, datagram, after.reverse, ?_, writes, fun later mem =>
      silent later (List.mem_reverse.mp mem)⟩
    have forwards := congrArg List.reverse reversed
    simpa using forwards
  · rintro ⟨before, datagram, after, rfl, writes, silent⟩
    exact ⟨after.reverse, datagram, before.reverse, by simp, writes, fun later mem =>
      silent later (List.mem_reverse.mp mem)⟩

/-- Who is listed has been announced, and shows the last announcement of its id. -/
theorem mem_leadersAt_startListen {datagrams : List Datagram} {now : UInt64}
    {leader : LeaderInfo} :
    leader ∈ (startListen fromStr { cfg } datagrams).leadersAt now ↔
      ∃ before datagram after info, datagrams = before ++ datagram :: after ∧
        datagram.leader? fromStr = some info ∧
        (∀ later ∈ after, ∀ other, later.leader? fromStr = some other → other.id ≠ info.id) ∧
        leader = DiscoveryClient.listed { cfg } now info := by
  have sameCfg (info : LeaderInfo) : (startListen fromStr { cfg } datagrams).listed now info =
      DiscoveryClient.listed { cfg } now info := by
    simp [DiscoveryClient.listed]
  have silent_iff (id : String) (later : Datagram) : later.writes fromStr id = none ↔
      ∀ other, later.leader? fromStr = some other → other.id ≠ id := by
    rw [Datagram.writes]
    cases later.leader? fromStr <;> simp
  rw [DiscoveryClient.mem_leadersAt]
  constructor
  · rintro ⟨info, stored, rfl⟩
    obtain ⟨id, found⟩ := HashMap.mem_values.mp stored
    obtain ⟨before, datagram, after, heard, writes, silent⟩ :=
      (lookup_startListen fromStr cfg).mp found
    obtain ⟨announced, isId⟩ := Option.filter_eq_some_iff.mp writes
    have sameId : info.id = id := of_decide_eq_true isId
    exact ⟨before, datagram, after, info, heard, announced, fun later mem =>
      sameId ▸ (silent_iff id later).mp (silent later mem), sameCfg info⟩
  · rintro ⟨before, datagram, after, info, heard, announced, silent, rfl⟩
    have writes : datagram.writes fromStr info.id = some info := by
      simp [Datagram.writes, announced]
    exact ⟨info, HashMap.mem_values.mpr ⟨info.id, (lookup_startListen fromStr cfg).mpr
      ⟨before, datagram, after, heard, writes, fun later mem =>
        (silent_iff info.id later).mpr (silent later mem)⟩⟩, sameCfg info⟩

end Listening

/-! ## Ids -/

/-- Without the separator behind it, the last separator divides a list in one way. -/
theorem append_cons_inj {α : Type} {front front' back back' : List α} {separator : α}
    (last : separator ∉ back) (last' : separator ∉ back')
    (same : front ++ separator :: back = front' ++ separator :: back') :
    front = front' ∧ back = back' := by
  rcases List.append_eq_append_iff.mp same with ⟨gap, fronts, backs⟩ | ⟨gap, fronts, backs⟩
  · cases gap with
    | nil => exact ⟨by simpa using fronts.symm, (List.cons.inj backs).2⟩
    | cons first gap => exact absurd ((List.cons.inj backs).2 ▸ by simp) last
  · cases gap with
    | nil => exact ⟨by simpa using fronts, (List.cons.inj backs).2.symm⟩
    | cons first gap => exact absurd ((List.cons.inj backs).2 ▸ by simp) last'

theorem toString_port_injective {first second : UInt16}
    (same : toString first = toString second) : first = second := by
  have digits : Nat.toDigits 10 first.toNat = Nat.toDigits 10 second.toNat :=
    String.ofList_injective same
  have values := congrArg Json.Compact.digitsValue digits
  rw [show Nat.toDigits 10 first.toNat = Json.Compact.writeNat first.toNat from rfl,
    show Nat.toDigits 10 second.toNat = Json.Compact.writeNat second.toNat from rfl] at values
  exact UInt16.toNat_inj.mp (by simpa using values)

theorem colon_notMem_port (port : UInt16) : ':' ∉ (toString port).toList := by
  intro mem
  have digits : (toString port).toList = Json.Compact.writeNat port.toNat :=
    String.toList_ofList
  exact absurd (Json.Compact.isDigit_writeNat (digits ▸ mem)) (by decide)

/-- Addresses have no `@`, so leaders with one id have one name, address and API port. -/
theorem LeaderInfo.id_inj {first second : LeaderInfo} (plain : '@' ∉ first.address.toList)
    (plain' : '@' ∉ second.address.toList) (same : first.id = second.id) :
    first.name = second.name ∧ first.address = second.address ∧
      first.apiPort = second.apiPort := by
  have lists := congrArg String.toList same
  simp only [LeaderInfo.id, String.toList_append, show "@".toList = ['@'] from rfl,
    show ":".toList = [':'] from rfl, List.append_assoc, List.singleton_append] at lists
  rw [← List.append_assoc, ← List.append_assoc] at lists
  obtain ⟨fronts, ports⟩ := append_cons_inj (colon_notMem_port first.apiPort)
    (colon_notMem_port second.apiPort) lists
  obtain ⟨names, addresses⟩ := append_cons_inj plain plain' fronts
  exact ⟨String.toList_injective names, String.toList_injective addresses,
    toString_port_injective (String.toList_injective ports)⟩

/-! ## From the leader to the list -/

/-- Bytes on the discovery port, the address they came from, and the clock. -/
structure Packet where
  data : List UInt8
  address : String
  now : UInt64
  deriving DecidableEq, Repr

/-- What fits into the buffer of the listener, read as text. -/
def Packet.datagram (packet : Packet) : Datagram :=
  { text := Text.fromUtf8Lossy (packet.data.take 4096), address := packet.address
    now := packet.now }

/-- A leader that announces itself from an address. -/
structure Announcer where
  cfg : BroadcastConfig
  address : String
  deriving DecidableEq, Repr

/-- What arrives on the port: announcements, and the pings of other members. -/
inductive Delivery where
  | announcement (announcer : Announcer) (now : UInt64)
  | ping (address : String) (now : UInt64)
  deriving DecidableEq, Repr

namespace Announcer

/-- The leader as a member keeps it. -/
def info (announcer : Announcer) (now : UInt64) : LeaderInfo :=
  { name := announcer.cfg.name, apiPort := announcer.cfg.apiPort
    sharePort := if announcer.cfg.sharePort = 0 then none else some announcer.cfg.sharePort
    fingerprint := announcer.cfg.fingerprint, address := announcer.address, lastSeen := now
    online := true }

/-- Two leaders that members take for one. -/
def Same (first second : Announcer) : Prop :=
  first.cfg.name = second.cfg.name ∧ first.address = second.address ∧
    first.cfg.apiPort = second.cfg.apiPort

instance (first second : Announcer) : Decidable (first.Same second) :=
  inferInstanceAs (Decidable (_ ∧ _))

variable (serde : SerdeJson)

def data (announcer : Announcer) : List UInt8 :=
  Text.utf8 (serde.toString announcer.cfg.payload)

/-- The leader has a name and a port, and its announcement fits into one buffer. -/
structure Audible (announcer : Announcer) : Prop where
  named : announcer.cfg.name ≠ ""
  apiPort : announcer.cfg.apiPort ≠ 0
  plain : '@' ∉ announcer.address.toList
  fits : (announcer.data serde).length ≤ 4096

end Announcer

/-- The printed text of an object stands between braces. -/
structure PrintsBraces (serde : SerdeJson) : Prop where
  head (fields : Json.Fields) : (serde.toString (.obj fields)).toList.head? = some '{'
  last (fields : Json.Fields) : (serde.toString (.obj fields)).toList.getLast? = some '}'

theorem printsBraces_compact : PrintsBraces SerdeJson.compact where
  head fields := by
    cases fields <;>
      rw [show SerdeJson.compact.toString = Json.Compact.toText from rfl, Json.Compact.toText,
        String.toList_ofList] <;> rfl
  last fields := by
    rw [show SerdeJson.compact.toString = Json.Compact.toText from rfl, Json.Compact.toText,
      String.toList_ofList]
    cases fields with
    | nil => rfl
    | cons field rest =>
        rw [Json.Compact.write, List.getLast?_append, Json.Compact.getLast?_writeFields,
          Option.some_or]

/-- The source's `serde_json::from_str`, without its message. -/
def parseText (serde : SerdeJson) (text : String) : Option Json :=
  (serde.fromStr text).toOption

def Delivery.packet (serde : SerdeJson) : Delivery → Packet
  | .announcement announcer now =>
      { data := announcer.data serde, address := announcer.address, now }
  | .ping address now => { data := Text.utf8 "AIPG_PING", address, now }

section Delivering

variable {serde : SerdeJson}

theorem leader?_ping (address : String) (now : UInt64) :
    ((Delivery.ping address now).packet serde).datagram.leader? (parseText serde) = none := by
  have whole : (Text.utf8 "AIPG_PING").take 4096 = Text.utf8 "AIPG_PING" :=
    List.take_of_length_le (by decide)
  simp [Delivery.packet, Packet.datagram, whole, Datagram.leader?,
    show Text.trim "AIPG_PING" = "AIPG_PING" by decide]

/-- The announcement of a leader survives printing, the bytes and the reading. -/
theorem leader?_announcement (braces : PrintsBraces serde) {announcer : Announcer}
    (audible : announcer.Audible serde) (now : UInt64) :
    ((Delivery.announcement announcer now).packet serde).datagram.leader? (parseText serde) =
      some (announcer.info now) := by
  set text := serde.toString announcer.cfg.payload with printed
  have head : text.toList.head? = some '{' := braces.head _
  have last : text.toList.getLast? = some '}' := braces.last _
  have trimmed : Text.trim text = text := by
    refine Text.trim_of_trimmed ⟨fun c mem => ?_, fun c mem => ?_⟩
    · cases Option.some.inj ((Option.mem_def.mp mem).symm.trans head)
      rfl
    · cases Option.some.inj ((Option.mem_def.mp mem).symm.trans last)
      rfl
  have noPing : text ≠ "AIPG_PING" := by
    intro ping
    rw [ping] at head
    exact absurd head (by decide)
  have whole : Text.fromUtf8Lossy ((announcer.data serde).take 4096) = text := by
    rw [List.take_of_length_le audible.fits, Announcer.data, Text.fromUtf8Lossy_utf8]
  have received : ((Delivery.announcement announcer now).packet serde).datagram =
      { text, address := announcer.address, now } := by
    rw [← whole]
    rfl
  have read : parseText serde text = some announcer.cfg.payload := by
    rw [parseText, printed, serde.fromStr_toString _ rfl]
    rfl
  have announces : Datagram.Announces (parseText serde)
      { text, address := announcer.address, now } announcer.cfg.payload := by
    refine ⟨?_, ?_, rfl, audible.named⟩
    · rw [trimmed]
      exact noPing
    · rw [trimmed]
      exact read
  have apiPort : ((portField? announcer.cfg.payload "api_port").getD 0).toUInt16 =
      announcer.cfg.apiPort := UInt16.toUInt16_toUInt64 _
  have sharePort : ((portField? announcer.cfg.payload "share_port").map UInt64.toUInt16) =
      some announcer.cfg.sharePort := congrArg some (UInt16.toUInt16_toUInt64 _)
  rw [received, announces.leader?_eq_some_iff, apiPort, sharePort, Option.filter_some]
  refine ⟨audible.apiPort, ?_⟩
  by_cases zero : announcer.cfg.sharePort = 0
  · rw [Announcer.info, if_pos zero, zero]
    rfl
  · rw [Announcer.info, if_neg zero, if_pos (by simpa using UInt16.pos_iff_ne_zero.mpr zero)]
    rfl

/-- Members tell leaders apart by name, address and API port. -/
theorem id_info_eq_iff {first second : Announcer} (plain : '@' ∉ first.address.toList)
    (plain' : '@' ∉ second.address.toList) (heard again : UInt64) :
    (first.info heard).id = (second.info again).id ↔ first.Same second := by
  constructor
  · exact LeaderInfo.id_inj plain plain'
  · rintro ⟨name, address, apiPort⟩
    simp only [LeaderInfo.id, Announcer.info, name, address, apiPort]

/-- The listener of a member, after what the network delivered. -/
def listened (serde : SerdeJson) (cfg : DiscoveryConfig) (deliveries : List Delivery) :
    DiscoveryClient :=
  startListen (parseText serde) { cfg } (deliveries.map fun delivery =>
    (delivery.packet serde).datagram)

/-- An announcement writes under the ids of its leader, a ping nowhere. -/
theorem announces_iff (braces : PrintsBraces serde) (delivery : Delivery)
    (audible : ∀ announcer heard, delivery = .announcement announcer heard →
      announcer.Audible serde) (info : LeaderInfo) :
    (delivery.packet serde).datagram.leader? (parseText serde) = some info ↔
      ∃ announcer heard, delivery = .announcement announcer heard ∧
        announcer.info heard = info := by
  cases delivery with
  | announcement announcer heard =>
      rw [leader?_announcement braces (audible announcer heard rfl), Option.some_inj]
      constructor
      · intro same
        exact ⟨announcer, heard, rfl, same⟩
      · rintro ⟨other, again, same, shown⟩
        cases same
        exact shown
  | ping address now =>
      rw [leader?_ping]
      constructor
      · intro absurd
        cases absurd
      · rintro ⟨announcer, heard, same, -⟩
        cases same

/--
Whatever announcements of audible leaders the network delivers, in whatever order, how often and
mixed with the pings of other members: the member lists the leaders it has heard and nobody else,
each of them once, in the order of the ids, with the ports and the fingerprint of its last
announcement, and as online while that is not longer ago than the threshold.
-/
theorem discovery_exact (braces : PrintsBraces serde) (cfg : DiscoveryConfig)
    {deliveries : List Delivery} (audible : ∀ announcer heard,
      .announcement announcer heard ∈ deliveries → announcer.Audible serde) (now : UInt64) :
    ((listened serde cfg deliveries).leadersAt now).Pairwise
        (fun first second => first.id < second.id) ∧
      ∀ leader, leader ∈ (listened serde cfg deliveries).leadersAt now ↔
        ∃ before announcer heard after,
          deliveries = before ++ .announcement announcer heard :: after ∧
          (∀ other again, .announcement other again ∈ after → ¬ other.Same announcer) ∧
          leader = { announcer.info heard with
            online := sinceSeen now heard ≤ cfg.onlineThresholdSecs } := by
  refine ⟨((DiscoveryClient.keyedById_new cfg).startListen _ _).sorted now, fun leader => ?_⟩
  rw [listened, mem_leadersAt_startListen]
  have writes (delivery : Delivery) (mem : delivery ∈ deliveries) (info : LeaderInfo) :=
    announces_iff braces delivery (fun announcer heard same =>
      audible announcer heard (same ▸ mem)) info
  constructor
  · rintro ⟨front, datagram, back, info, heardAll, announced, silent, rfl⟩
    obtain ⟨before, rest, rfl, rfl, tail⟩ := List.map_eq_append_iff.mp heardAll
    obtain ⟨delivery, after, rfl, rfl, rfl⟩ := List.map_eq_cons_iff.mp tail
    obtain ⟨announcer, heard, rfl, rfl⟩ := (writes delivery (by simp) info).mp announced
    refine ⟨before, announcer, heard, after, rfl, fun other again mem same => ?_, rfl⟩
    have later := leader?_announcement braces (audible other again (by simp [mem])) again
    exact silent _ (List.mem_map_of_mem mem) _ later ((id_info_eq_iff
      (audible other again (by simp [mem])).plain (audible announcer heard (by simp)).plain
      again heard).mpr same)
  · rintro ⟨before, announcer, heard, after, rfl, silent, rfl⟩
    refine ⟨before.map _, _, after.map _, announcer.info heard, by rw [List.map_append,
      List.map_cons], leader?_announcement braces (audible announcer heard (by simp)) heard,
      fun later mem info announced => ?_, rfl⟩
    obtain ⟨delivery, inside, rfl⟩ := List.mem_map.mp mem
    obtain ⟨other, again, rfl, rfl⟩ := (writes delivery (by simp [inside]) info).mp announced
    rw [Ne, id_info_eq_iff (audible other again (by simp [inside])).plain
      (audible announcer heard (by simp)).plain]
    exact silent other again inside

/-- A leader with the defaults of the source. -/
def sampleAnnouncer : Announcer := ⟨{}, "192.168.1.5"⟩

theorem audible_sampleAnnouncer : sampleAnnouncer.Audible SerdeJson.compact :=
  ⟨by decide, by decide, by decide, by decide +kernel⟩

theorem discovery_exact_sampleAnnouncer :
    { sampleAnnouncer.info 7 with online := true } ∈ (listened SerdeJson.compact {}
      [.announcement sampleAnnouncer 3, .ping "192.168.1.9" 5,
        .announcement sampleAnnouncer 7]).leadersAt 30 := by
  have audible : ∀ announcer heard, .announcement announcer heard ∈
      [.announcement sampleAnnouncer 3, .ping "192.168.1.9" 5,
        Delivery.announcement sampleAnnouncer 7] → announcer.Audible SerdeJson.compact := by
    intro announcer heard mem
    simp only [List.mem_cons, Delivery.announcement.injEq, reduceCtorEq, List.not_mem_nil,
      or_false, false_or] at mem
    rcases mem with ⟨rfl, -⟩ | ⟨rfl, -⟩ <;> exact audible_sampleAnnouncer
  exact ((discovery_exact printsBraces_compact {} audible 30).2 _).mpr
    ⟨[.announcement sampleAnnouncer 3, .ping "192.168.1.9" 5], sampleAnnouncer, 7, [], rfl,
      by simp, rfl⟩

end Delivering

end AiPowerGateway.LanClient
