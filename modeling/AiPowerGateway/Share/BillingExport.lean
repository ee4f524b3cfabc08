import AiPowerGateway.Csv.Records
import AiPowerGateway.Share.AuthRuns
import AiPowerGateway.Share.Control
import AiPowerGateway.Share.ServedAnswers
import Mathlib.Data.List.Sort

/-!
# The billing export

The usage of all members as comma-separated records, the largest total first.  A member is
named by the machine name that it chose, and the name is written as it is: the records
are read back as they were meant exactly when no name of a member with usage holds a
comma, a quote or a line break.
-/

namespace AiPowerGateway.Share

open Systems EventRuns

/-! ## The export -/

/-- Larger totals come first. -/
def TotalGe (first second : MemberUsage UInt64) : Prop := second.total ≤ first.total

instance : DecidableRel TotalGe := fun _ _ => inferInstanceAs (Decidable (_ ≤ _))

instance : Std.Total TotalGe := ⟨fun first second => UInt64.le_total second.total first.total⟩

instance : IsTrans (MemberUsage UInt64) TotalGe :=
  ⟨fun _ _ _ second third => UInt64.le_trans third second⟩

namespace UsageService

def all (usage : UsageService UInt64) : List (MemberUsage UInt64) :=
  usage.values.insertionSort TotalGe

def csvLine (usage : MemberUsage UInt64) : String :=
  usage.memberId ++ "," ++ toString usage.promptTokens ++ "," ++
    toString usage.completionTokens ++ "," ++ toString usage.total ++ "," ++
    toString usage.calls ++ "\n"

def exportCsv (usage : UsageService UInt64) : String :=
  usage.all.foldl (fun out entry => out ++ csvLine entry)
    "member_id,prompt_tokens,completion_tokens,total_tokens,calls\n"

end UsageService

/-! ## What is to be read back -/

def billHeader : List String :=
  ["member_id", "prompt_tokens", "completion_tokens", "total_tokens", "calls"]

/-- The record of a member. -/
def billRow (memberId : String) (usage : MemberUsage UInt64) : List String :=
  [memberId, toString usage.promptTokens, toString usage.completionTokens, toString usage.total,
    toString usage.calls]

/-- The header and one record for each member, in an order of nonincreasing totals. -/
def Lossless (usage : UsageService UInt64) : Prop :=
  ∃ bill : List (Sigma fun _ : String => MemberUsage UInt64),
    bill.Perm usage.entries ∧
      (bill.Pairwise fun first second => second.snd.total ≤ first.snd.total) ∧
      Csv.parse usage.exportCsv.toList =
        some ((billHeader :: bill.map fun row => billRow row.fst row.snd).map
          (List.map String.toList))

/-- The name holds no comma, no quote and no line break. -/
def PlainName (name : String) : Prop := Csv.plain name.toList = true

/-! ## The written fields -/

theorem toList_toString (n : UInt64) : (toString n).toList = Nat.toDigits 10 n.toNat := by
  show (toString n.toNat).toList = _
  rw [Nat.toString_eq_repr, Nat.toList_repr]

/-- A number is written in digits. -/
theorem plain_toString (n : UInt64) : Csv.plain (toString n).toList = true := by
  rw [toList_toString, Csv.plain, List.all_eq_true]
  intro c mem
  have digit := Nat.isDigit_of_mem_toDigits (by decide) (by decide) mem
  simp only [Csv.plainChar, Bool.and_eq_true, decide_eq_true_eq]
  refine ⟨⟨⟨?_, ?_⟩, ?_⟩, ?_⟩
  · rintro rfl
    cases digit
  · rintro rfl
    cases digit
  · rintro rfl
    cases digit
  · rintro rfl
    cases digit

theorem plain_billHeader :
    ∀ field ∈ billHeader.map String.toList, Csv.plain field = true := by
  decide

/-- The fields of a record are plain when the name is. -/
theorem plain_billRow (memberId : String) (usage : MemberUsage UInt64) :
    (∀ field ∈ (billRow memberId usage).map String.toList, Csv.plain field = true) ↔
      PlainName memberId := by
  simp [billRow, plain_toString, PlainName]

theorem toList_csvLine (usage : MemberUsage UInt64) :
    (UsageService.csvLine usage).toList =
      Csv.bareRecord ((billRow usage.memberId usage).map String.toList) := by
  simp [UsageService.csvLine, billRow, Csv.bareRecord]

theorem toList_exportCsv (usage : UsageService UInt64) :
    usage.exportCsv.toList =
      Csv.bareRecords ((billHeader :: usage.all.map fun entry => billRow entry.memberId entry).map
        (List.map String.toList)) := by
  have lines (entries : List (MemberUsage UInt64)) (out : String) :
      (entries.foldl (fun out entry => out ++ UsageService.csvLine entry) out).toList =
        out.toList ++ Csv.bareRecords
          ((entries.map fun entry => billRow entry.memberId entry).map
            (List.map String.toList)) := by
    induction entries generalizing out with
    | nil => simp [Csv.bareRecords]
    | cons entry entries ih =>
        rw [List.foldl_cons, ih, String.toList_append, toList_csvLine, List.append_assoc]
        rfl
  rw [UsageService.exportCsv, lines]
  rfl

/-! ## A table whose entries bear their own names -/

/-- Every entry bears the name it is stored under. -/
def OwnNames (usage : UsageService UInt64) : Prop :=
  ∀ memberId entry, usage.lookup memberId = some entry → entry.memberId = memberId

def PlainNames (usage : UsageService UInt64) : Prop :=
  ∀ memberId, (usage.lookup memberId).isSome → PlainName memberId

section Table

variable {usage : UsageService UInt64}

theorem OwnNames.entries (own : OwnNames usage) :
    (usage.values.map fun entry =>
      (⟨entry.memberId, entry⟩ : Sigma fun _ : String => MemberUsage UInt64)) = usage.entries := by
  unfold HashMap.values
  rw [List.map_map]
  refine (List.map_congr_left fun row mem => ?_).trans (List.map_id _)
  have same := own row.fst row.snd (AList.mem_lookup_iff.mpr mem)
  exact Sigma.ext same (heq_of_eq rfl)

/-- The records of a table are those of its entries under their own names. -/
theorem OwnNames.rows (own : OwnNames usage) :
    (usage.values.map fun entry => billRow entry.memberId entry) =
      usage.entries.map fun row => billRow row.fst row.snd := by
  rw [← own.entries, List.map_map]
  rfl

theorem OwnNames.plain_rows (own : OwnNames usage) :
    (∀ entry ∈ usage.all, PlainName entry.memberId) ↔ PlainNames usage := by
  have mem_all (entry : MemberUsage UInt64) :
      entry ∈ usage.all ↔ ∃ memberId, usage.lookup memberId = some entry := by
    rw [UsageService.all, List.mem_insertionSort, HashMap.mem_values]
  constructor
  · intro plain memberId stored
    obtain ⟨entry, found⟩ := Option.isSome_iff_exists.mp stored
    have named := plain entry ((mem_all entry).mpr ⟨memberId, found⟩)
    rwa [own memberId entry found] at named
  · intro plain entry mem
    obtain ⟨memberId, found⟩ := (mem_all entry).mp mem
    rw [own memberId entry found]
    exact plain memberId (by rw [found]; rfl)

/-- The records as they are written. -/
def writtenRecords (usage : UsageService UInt64) : List (List (List Char)) :=
  (billHeader :: usage.all.map fun entry => billRow entry.memberId entry).map
    (List.map String.toList)

theorem writtenRecords_ne_nil : ∀ record ∈ writtenRecords usage, record ≠ [] := by
  intro record mem
  obtain ⟨row, rowMem, rfl⟩ := List.mem_map.mp mem
  rcases List.mem_cons.mp rowMem with rfl | rowMem
  · exact List.cons_ne_nil _ _
  · obtain ⟨entry, -, rfl⟩ := List.mem_map.mp rowMem
    exact List.cons_ne_nil _ _

theorem plain_writtenRecords (own : OwnNames usage) :
    (∀ record ∈ writtenRecords usage, ∀ field ∈ record, Csv.plain field = true) ↔
      PlainNames usage := by
  rw [← own.plain_rows]
  constructor
  · intro plain entry mem
    refine (plain_billRow entry.memberId entry).mp (plain _ ?_)
    exact List.mem_map_of_mem (List.mem_cons_of_mem _ (List.mem_map_of_mem mem))
  · intro plain record mem
    obtain ⟨row, rowMem, rfl⟩ := List.mem_map.mp mem
    rcases List.mem_cons.mp rowMem with rfl | rowMem
    · exact plain_billHeader
    · obtain ⟨entry, entryMem, rfl⟩ := List.mem_map.mp rowMem
      exact (plain_billRow entry.memberId entry).mpr (plain entry entryMem)

/-- The export of a table is lossless exactly when the names in it are plain. -/
theorem lossless_iff_plainNames (own : OwnNames usage) : Lossless usage ↔ PlainNames usage := by
  have sorted : usage.all.Perm usage.values := List.perm_insertionSort _ _
  rw [← plain_writtenRecords own]
  constructor
  · rintro ⟨bill, perm, -, parses⟩
    rw [toList_exportCsv] at parses
    refine Csv.plain_of_parse_bareRecords writtenRecords_ne_nil ?_ parses
    have stored := perm.map fun row => billRow row.fst row.snd
    rw [← own.rows] at stored
    have rows := stored.trans (sorted.map fun entry => billRow entry.memberId entry).symm
    exact (rows.cons billHeader).map _
  · intro plain
    refine ⟨usage.all.map fun entry => ⟨entry.memberId, entry⟩, ?_, ?_, ?_⟩
    · rw [← own.entries]
      exact sorted.map _
    · exact List.pairwise_map.mpr (List.pairwise_insertionSort TotalGe usage.values)
    · rw [toList_exportCsv, List.map_map]
      exact Csv.parse_bareRecords writtenRecords_ne_nil plain

end Table

/-! ## One answer -/

section Step

variable {usage : UsageService UInt64} {answer : Answer}

theorem ownNames_apply (own : OwnNames usage) : OwnNames (answer.apply usage) := by
  intro memberId entry found
  by_cases same : answer.memberId = memberId
  · subst same
    rw [lookup_apply_self, Option.some.injEq] at found
    rw [← found]
    show (usage.entry answer.memberId).memberId = answer.memberId
    unfold UsageService.entry
    cases stored : usage.lookup answer.memberId with
    | none => rfl
    | some before => exact own answer.memberId before stored
  · rw [lookup_apply_ne same] at found
    exact own memberId entry found

/-- After an answer its member has usage, and the others have what they had. -/
theorem plainNames_apply (plain : PlainNames usage) :
    PlainNames (answer.apply usage) ↔ PlainName answer.memberId := by
  constructor
  · intro after
    refine after answer.memberId ?_
    rw [lookup_apply_self]
    rfl
  · intro name memberId stored
    by_cases same : answer.memberId = memberId
    · exact same ▸ name
    · rw [lookup_apply_ne same] at stored
      exact plain memberId stored

end Step

/-! ## Runs -/

/-- What leads to usage: a machine gets a token, and requests are served. -/
inductive BillEvent where
  | authToken (host : Host) (now : UInt64) (genToken : String) (dropped issued : WriteOutcome)
      (ip : String) (body : Json)
  | chatCompletions (host : Host) (net : Nat → HttpOutcome) (now : UInt64) (headers : HeaderMap)
      (body : Json)
  | messages (host : Host) (outcome : HttpOutcome) (now : UInt64) (headers : HeaderMap)
      (raw : List UInt8)
  /-- Everything but the sessions and the usage may change between requests. -/
  | configure (settings : ApiState UInt64)

namespace BillEvent

def step : BillEvent → ApiState UInt64 → ApiState UInt64
  | .authToken host now genToken dropped issued ip body, state =>
      (Share.authToken host now genToken dropped issued ip body state).2
  | .chatCompletions host net now headers body, state =>
      (Share.chatCompletions host net now state headers body).state
  | .messages host outcome now headers raw, state =>
      (Share.messages host outcome now state headers raw).state
  | .configure settings, state =>
      { settings with
        auth := { settings.auth with sessions := state.auth.sessions }
        usage := state.usage }

/-- The answer that the event meters. -/
def answer? : BillEvent → ApiState UInt64 → Option Answer
  | .chatCompletions host net now headers body, state =>
      chatAnswer? host net now state headers body
  | .messages host outcome now headers raw, state =>
      messagesAnswer? host outcome now state headers raw
  | _, _ => none

/-- Whoever is metered has a plain name. -/
def MetersPlain (event : BillEvent) (state : ApiState UInt64) : Prop :=
  ∀ answer, event.answer? state = some answer → PlainName answer.memberId

/-- A machine that asks for a token has a plain name. -/
def AsksPlain : BillEvent → Prop
  | .authToken _ _ _ _ _ _ body => PlainName (body.textOr "machineName" "")
  | _ => True

theorem usage_step (event : BillEvent) (state : ApiState UInt64) :
    (event.step state).usage = meteredWith (event.answer? state) state.usage := by
  cases event with
  | authToken host now genToken dropped issued ip body =>
      show (Share.authToken ..).2.usage = state.usage
      unfold Share.authToken
      split
      · rfl
      · simp only
        split
        · rfl
        · split <;> rfl
  | chatCompletions host net now headers body => exact chatCompletions_usage ..
  | messages host outcome now headers raw => exact messages_usage ..
  | configure settings => rfl

end BillEvent

/-- A service before any machine got a token. -/
def unbilled (settings : ApiState UInt64) : ApiState UInt64 :=
  { settings with
    auth := { settings.auth with sessions := ∅ }
    usage := ∅ }

section Runs

variable {state : ApiState UInt64} {event : BillEvent}

theorem ownNames_step (own : OwnNames state.usage) : OwnNames (event.step state).usage := by
  rw [BillEvent.usage_step]
  cases event.answer? state with
  | none => exact own
  | some answer => exact ownNames_apply own

/-- The export stays lossless exactly when no name is metered that is not plain. -/
theorem lossless_step (event : BillEvent) (lossless : Lossless state.usage)
    (own : OwnNames state.usage) :
    Lossless (event.step state).usage ↔ event.MetersPlain state := by
  have plain := (lossless_iff_plainNames own).mp lossless
  rw [lossless_iff_plainNames (ownNames_step own), BillEvent.usage_step, BillEvent.MetersPlain]
  cases event.answer? state with
  | none =>
      constructor
      · intro _ answer metered
        cases metered
      · intro _
        exact plain
  | some answer =>
      rw [show meteredWith (some answer) state.usage = answer.apply state.usage from rfl,
        plainNames_apply plain]
      constructor
      · rintro name _ ⟨⟩
        exact name
      · intro metered
        exact metered answer rfl

/-! ## Where the names come from -/

def PlainSessions (sessions : HashMap Session) : Prop :=
  ∀ session ∈ sessions.values, PlainName session.memberId

theorem plainSessions_issue {service : AuthService} (plain : PlainSessions service.sessions)
    {machineName : String} (name : PlainName machineName) (now : UInt64) (genToken : String)
    (issued : WriteOutcome) (displayName ip : String) :
    PlainSessions
      (service.issue now genToken issued machineName displayName ip).2.sessions := by
  rcases AuthService.issue_cases now genToken issued machineName displayName ip service with
    ⟨existing, -, reused⟩ | ⟨-, -, refused⟩ | ⟨-, -, -, stored⟩
  · rw [reused]
    exact plain
  · rw [refused]
    exact plain
  · rw [stored, AuthService.saveSessions_sessions]
    intro session mem
    rcases HashMap.mem_values_insert mem with rfl | earlier
    · exact name
    · exact plain session earlier

theorem plainSessions_issueOrRotate {service : AuthService}
    (plain : PlainSessions service.sessions) {body : Json}
    (name : PlainName (body.textOr "machineName" "")) (now : UInt64) (genToken : String)
    (dropped issued : WriteOutcome) (ip : String) :
    PlainSessions (issueOrRotate now genToken dropped issued ip body service).2.sessions := by
  unfold issueOrRotate
  simp only
  split
  · refine plainSessions_issue ?_ name now genToken issued _ ip
    rw [AuthService.saveSessions_sessions]
    intro session mem
    exact plain session (HashMap.mem_values_retain mem).1
  · exact plainSessions_issue plain name now genToken issued _ ip

theorem plainSessions_step (plain : PlainSessions state.auth.sessions) (asks : event.AsksPlain) :
    PlainSessions (event.step state).auth.sessions := by
  cases event with
  | authToken host now genToken dropped issued ip body =>
      have joined := plainSessions_issueOrRotate plain asks now genToken dropped issued ip
      show PlainSessions (authToken ..).2.auth.sessions
      unfold authToken
      split
      · exact plain
      · simp only
        split
        · exact plain
        · cases called : issueOrRotate now genToken dropped issued ip body state.auth with
          | mk answered auth =>
              rw [called] at joined
              cases answered <;> exact joined
  | chatCompletions host net now headers body =>
      show PlainSessions (chatCompletions ..).state.auth.sessions
      rw [chatCompletions_auth]
      exact plain
  | messages host outcome now headers raw =>
      show PlainSessions (messages ..).state.auth.sessions
      rw [messages_auth]
      exact plain
  | configure settings => exact plain

/-- Where all sessions have plain names, so has whoever is metered. -/
theorem metersPlain_of_plainSessions (plain : PlainSessions state.auth.sessions) :
    event.MetersPlain state := by
  intro answer metered
  cases event with
  | authToken => cases metered
  | chatCompletions host net now headers body =>
      exact plain answer.session (mem_sessions_of_chatAnswer? metered)
  | messages host outcome now headers raw =>
      exact plain answer.session (mem_sessions_of_messagesAnswer? metered)
  | configure => cases metered

theorem fitting_of_plainSessions {events : List BillEvent}
    (asks : ∀ event ∈ events, event.AsksPlain) (plain : PlainSessions state.auth.sessions) :
    Fitting BillEvent.step BillEvent.MetersPlain events state := by
  induction events generalizing state with
  | nil => exact trivial
  | cons event events ih =>
      exact ⟨metersPlain_of_plainSessions plain,
        ih (fun other mem => asks other (List.mem_cons_of_mem _ mem))
          (plainSessions_step plain (asks event (List.mem_cons_self ..)))⟩

end Runs

theorem lossless_empty : Lossless (∅ : UsageService UInt64) :=
  ⟨[], List.Perm.refl _, List.Pairwise.nil, by decide⟩

/--
In a run from an empty table the export is lossless in every state exactly when every
request that is metered is of a member with a plain name, and it is when every machine
that asks for a token has one.
-/
theorem billing_export_lossless_iff (settings : ApiState UInt64) (events : List BillEvent) :
    (Throughout BillEvent.step (fun state => Lossless state.usage) events (unbilled settings) ↔
        Fitting BillEvent.step BillEvent.MetersPlain events (unbilled settings)) ∧
      ((∀ event ∈ events, event.AsksPlain) →
        Throughout BillEvent.step (fun state => Lossless state.usage) events
          (unbilled settings)) := by
  have exact_run : Throughout BillEvent.step (fun state => Lossless state.usage) events
      (unbilled settings) ↔
        Fitting BillEvent.step BillEvent.MetersPlain events (unbilled settings) := by
    refine throughout_iff_fitting_of (fun state : ApiState UInt64 => OwnNames state.usage)
      (fun _ _ own => ownNames_step own)
      (fun event _ lossless own => lossless_step event lossless own) lossless_empty ?_ events
    intro memberId entry found
    cases found
  refine ⟨exact_run, fun asks => exact_run.mpr (fitting_of_plainSessions asks ?_)⟩
  intro session mem
  cases mem

/-- A machine whose name ends one record and begins another gets a token and is served. -/
def forgingRun : List BillEvent :=
  [.authToken Host.compact 1000 "token-1" .done .done "10.0.0.7"
      (.obj [("machineName", .str "a,0,0,0,0\nb")]),
    .chatCompletions Host.compact (fun _ => .sendFailed "offline") 1000 smallHeaders
      (modelRequest "mock-7b")]

/-- The service after that run. -/
def forgedService : ApiState UInt64 :=
  final BillEvent.step forgingRun (unbilled (smallService [mockBackend] []))

set_option maxRecDepth 10000 in
/-- The bill has a record for a member `a` that does not exist. -/
theorem not_billing_export_lossless_forged :
    Csv.parse forgedService.usage.exportCsv.toList =
        some ((billHeader :: [["a", "0", "0", "0", "0"], ["b", "1", "7", "8", "1"]]).map
          (List.map String.toList)) ∧
      forgedService.usage.keys = ["a,0,0,0,0\nb"] ∧ ¬ Lossless forgedService.usage := by
  have forged : Csv.parse forgedService.usage.exportCsv.toList =
      some ((billHeader :: [["a", "0", "0", "0", "0"], ["b", "1", "7", "8", "1"]]).map
        (List.map String.toList)) := by decide
  refine ⟨forged, by decide, ?_⟩
  rintro ⟨bill, perm, -, parses⟩
  have one : bill.length = 1 := perm.length_eq.trans (by decide)
  rw [forged, Option.some.injEq] at parses
  have lengths := congrArg List.length parses
  simp [one] at lengths

end AiPowerGateway.Share
