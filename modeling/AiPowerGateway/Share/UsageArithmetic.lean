import AiPowerGateway.Numbers.Word
import AiPowerGateway.Share.Api
import AiPowerGateway.Share.UsageRuns
import AiPowerGateway.Systems.EventRuns

/-!
# Usage that does not fit its counters

The counters are 64-bit words and the token counts come from the upstream as they are.
A sum that does not fit wraps in a release build; a debug build panics over it, and in
`record` with the write lock held.  Either way it is an overflow of the word.
-/

namespace AiPowerGateway.Share

open Numbers Systems

instance : Counter Word where
  ofTokens tokens := ⟨tokens, false⟩
  atLeast used limit := limit ≤ used.value

/-! ## Answers -/

/-- A served call, with what the handler knows of it when it meters the answer. -/
structure Answer where
  session : Session
  providerLabel : String
  candidate : String
  ruleSet : String
  resp : Json
  streams : Bool

namespace Answer

def memberId (answer : Answer) : String := answer.session.memberId

def promptTokens (answer : Answer) : UInt64 := (extractOpenaiUsage answer.resp).1

def completionTokens (answer : Answer) : UInt64 := (extractOpenaiUsage answer.resp).2

/-- The tokens that the upstream reports, without a bound. -/
def tokens (answer : Answer) : Nat := answer.promptTokens.toNat + answer.completionTokens.toNat

def apply {τ : Type} [Counter τ] (answer : Answer) (usage : UsageService τ) : UsageService τ :=
  meter answer.session answer.providerLabel answer.candidate answer.ruleSet answer.resp usage

end Answer

/-- The tokens that are reported for a member. -/
def tokensOf (memberId : String) (answers : List Answer) : Nat :=
  ((answers.filter fun answer => answer.memberId = memberId).map Answer.tokens).sum

def callsOf (memberId : String) (answers : List Answer) : Nat :=
  (answers.filter fun answer => answer.memberId = memberId).length

/-! ## What is to hold -/

section Readings

variable {τ : Type} [Counter τ]

/-- A member's entry; one without an entry has counted nothing. -/
def UsageService.entry (memberId : String) (usage : UsageService τ) : MemberUsage τ :=
  (usage.lookup memberId).getD (.fresh memberId)

end Readings

/-- No counter and no total has overflowed. -/
structure Exact (usage : UsageService Word) : Prop where
  counters (memberId : String) (key : UsageKey) :
    (key.read (usage.entry memberId)).overflowed = false
  totals (memberId : String) : (usage.used memberId).overflowed = false

/-- The total that a chunk of a stream shows. -/
def shownTotal? (chunk : Json) : Option UInt64 :=
  ((chunk.get? "usage").bind (·.get? "total_tokens")).bind Json.asU64?

/-- A call is streamed with its true total, lowers no total and lifts no refusal. -/
structure Monotone (answer : Answer) (usage : UsageService Word) : Prop where
  streamed : answer.streams = true →
    ((openaiChunks answer.resp).filterMap shownTotal?).map UInt64.toNat = [answer.tokens]
  grows (memberId : String) :
    (usage.used memberId).value ≤ ((answer.apply usage).used memberId).value
  refused (quota : QuotaService) (memberId : String) (exceeded : QuotaExceeded) :
    quota.check memberId (usage.used memberId) = .error exceeded →
      quota.check memberId ((answer.apply usage).used memberId) = .error exceeded

/-- Of the chunks of a stream, the last shows the total. -/
theorem shownTotals_openaiChunks (resp : Json) :
    (openaiChunks resp).filterMap shownTotal? =
      [(extractOpenaiUsage resp).1 + (extractOpenaiUsage resp).2] := by
  have role : shownTotal? (roleChunk resp) = none := rfl
  have text (part : String) : shownTotal? (contentChunk resp part) = none := rfl
  have call (call : Json) : shownTotal? (toolCallChunk resp call) = none := rfl
  have finish (reason : String) : shownTotal? (finishChunk resp reason) =
      some ((extractOpenaiUsage resp).1 + (extractOpenaiUsage resp).2) := rfl
  have choice (choice : OpenAiChoice) :
      (choiceChunks resp choice).filterMap shownTotal? = [] := by
    by_cases silent : choice.text = "" <;>
      simp [choiceChunks, silent, text, List.filterMap_map, call]
  unfold openaiChunks
  cases firstChoice resp with
  | none => simp [role, finish]
  | some first => simp [role, finish, choice first]

/-! ## Counters as images of natural numbers -/

/-- Counters whose sums are the images of the sums of natural numbers. -/
structure Counts {τ : Type} [Counter τ] (count : Nat → τ) : Prop where
  zero : count 0 = 0
  add (m n : Nat) : count (m + n) = count m + count n
  tokens (tokens : UInt64) : count tokens.toNat = Counter.ofTokens tokens

theorem counts_word : Counts Word.ofNat where
  zero := Word.ofNat_zero
  add := Word.ofNat_add
  tokens := Word.ofNat_toNat

theorem counts_uint64 : Counts UInt64.ofNat where
  zero := rfl
  add := UInt64.ofNat_add
  tokens _ := UInt64.ofNat_toNat

/-- What an answer adds to a counter of its own member. -/
def Answer.ownAmount (answer : Answer) : UsageKey → Nat
  | .prompt => answer.promptTokens.toNat
  | .completion => answer.completionTokens.toNat
  | .calls => 1
  | .provider name => tokensFor name answer.providerLabel answer.tokens
  | .model name => tokensFor name answer.candidate answer.tokens
  | .ruleSet name => tokensFor name answer.ruleSet answer.tokens

def Answer.amount (memberId : String) (key : UsageKey) (answer : Answer) : Nat :=
  if answer.memberId = memberId then answer.ownAmount key else 0

section Counting

variable {τ : Type} [Counter τ] {count : Nat → τ} {usage : UsageService τ} {answer : Answer}

theorem Counts.stored_addTokens (counts : Counts count) {name counted : String}
    {stored tokens : Nat} {table : HashMap τ} (holds : UsageKey.stored name table = count stored) :
    UsageKey.stored name (addTokens counted (count tokens) table) =
      count (stored + tokensFor name counted tokens) := by
  by_cases empty : counted = ""
  · rw [addTokens, if_pos empty, tokensFor, if_neg fun both => both.1 empty, Nat.add_zero, holds]
  · rw [addTokens, if_neg empty]
    by_cases same : counted = name
    · subst same
      rw [UsageKey.stored, HashMap.lookup_upsert_self, Option.getD_some, tokensFor,
        if_pos ⟨empty, rfl⟩, counts.add, ← holds, UsageKey.stored]
    · rw [UsageKey.stored, HashMap.lookup_upsert_ne (Ne.symm same), tokensFor,
        if_neg fun both => same both.2, Nat.add_zero, ← holds, UsageKey.stored]

/-- The entry of the member after the call and its rule set are recorded. -/
def Answer.charge (answer : Answer) (entry : MemberUsage τ) : MemberUsage τ :=
  { entry.addCall answer.providerLabel answer.candidate answer.promptTokens
      answer.completionTokens with
    ruleSetTokens := addTokens answer.ruleSet
      (Counter.ofTokens answer.promptTokens + Counter.ofTokens answer.completionTokens)
      entry.ruleSetTokens }

theorem Counts.read_charge (counts : Counts count) {entry : MemberUsage τ} {sums : UsageKey → Nat}
    (holds : ∀ key : UsageKey, key.read entry = count (sums key)) (key : UsageKey) :
    key.read (answer.charge entry) = count (sums key + answer.ownAmount key) := by
  have tokens : count answer.tokens =
      Counter.ofTokens answer.promptTokens + Counter.ofTokens answer.completionTokens := by
    rw [Answer.tokens, counts.add, counts.tokens, counts.tokens]
  cases key with
  | prompt =>
      show entry.promptTokens + Counter.ofTokens answer.promptTokens = _
      rw [counts.add, ← holds .prompt, ← counts.tokens]
      rfl
  | completion =>
      show entry.completionTokens + Counter.ofTokens answer.completionTokens = _
      rw [counts.add, ← holds .completion, ← counts.tokens]
      rfl
  | calls =>
      show entry.calls + Counter.ofTokens 1 = _
      rw [counts.add, ← holds .calls, ← counts.tokens]
      rfl
  | provider name =>
      show UsageKey.stored name (addTokens answer.providerLabel _ entry.providerTokens) = _
      rw [← tokens]
      exact counts.stored_addTokens (holds (.provider name))
  | model name =>
      show UsageKey.stored name (addTokens answer.candidate _ entry.modelTokens) = _
      rw [← tokens]
      exact counts.stored_addTokens (holds (.model name))
  | ruleSet name =>
      show UsageKey.stored name (addTokens answer.ruleSet _ entry.ruleSetTokens) = _
      rw [← tokens]
      exact counts.stored_addTokens (holds (.ruleSet name))

theorem lookup_apply_ne {memberId : String} (other : answer.memberId ≠ memberId) :
    (answer.apply usage).lookup memberId = usage.lookup memberId := by
  have differ : memberId ≠ answer.session.memberId := Ne.symm other
  show (meter ..).lookup memberId = _
  unfold meter
  by_cases unruled : answer.ruleSet = ""
  · simp only [unruled, ↓reduceIte]
    exact UsageService.lookup_record_ne differ ..
  · simp only [unruled, UsageService.recordRule, ↓reduceIte]
    rw [HashMap.lookup_upsert_ne differ]
    exact UsageService.lookup_record_ne differ ..

theorem lookup_apply_self (answer : Answer) (usage : UsageService τ) :
    (answer.apply usage).lookup answer.memberId =
      some (answer.charge (usage.entry answer.memberId)) := by
  show (meter ..).lookup answer.memberId = _
  unfold meter
  by_cases unruled : answer.ruleSet = ""
  · simp only [unruled, ↓reduceIte, Answer.charge, addTokens]
    exact HashMap.lookup_upsert_self ..
  · simp only [unruled, UsageService.recordRule, ↓reduceIte, Answer.charge, addTokens]
    exact (HashMap.lookup_upsert_self ..).trans (by rw [UsageService.record,
      show answer.session.memberId = answer.memberId from rfl, HashMap.lookup_upsert_self]; rfl)

/-- Every counter of every member is the image of its sum. -/
def Reads (count : Nat → τ) (usage : UsageService τ) (sums : String → UsageKey → Nat) : Prop :=
  ∀ memberId (key : UsageKey), key.read (usage.entry memberId) = count (sums memberId key)

theorem reads_empty (counts : Counts count) :
    Reads count (∅ : UsageService τ) fun _ _ => 0 := by
  intro memberId key
  rw [counts.zero]
  cases key <;> rfl

/-- An answer adds its amounts. -/
theorem Reads.apply (counts : Counts count) {sums : String → UsageKey → Nat}
    (reads : Reads count usage sums) (answer : Answer) :
    Reads count (answer.apply usage) fun memberId key =>
      sums memberId key + answer.amount memberId key := by
  intro memberId key
  show key.read _ = count (sums memberId key + answer.amount memberId key)
  by_cases own : answer.memberId = memberId
  · subst own
    have amount : answer.amount answer.memberId key = answer.ownAmount key := if_pos rfl
    rw [UsageService.entry, lookup_apply_self, Option.getD_some, amount]
    exact counts.read_charge (reads answer.memberId) key
  · have amount : answer.amount memberId key = 0 := if_neg own
    rw [UsageService.entry, lookup_apply_ne own, amount, Nat.add_zero]
    exact reads memberId key

theorem Reads.used (counts : Counts count) {sums : String → UsageKey → Nat}
    (reads : Reads count usage sums) (memberId : String) :
    usage.used memberId = count (sums memberId .prompt + sums memberId .completion) := by
  have prompt : (usage.entry memberId).promptTokens = count (sums memberId .prompt) :=
    reads memberId .prompt
  have completion : (usage.entry memberId).completionTokens = count (sums memberId .completion) :=
    reads memberId .completion
  rw [counts.add, ← prompt, ← completion, UsageService.used, UsageService.entry]
  cases usage.lookup memberId with
  | some entry => rfl
  | none =>
      show (0 : τ) = 0 + 0
      rw [← counts.zero, ← counts.add]

/-- The counters after a run are the images of the sums of what its answers add. -/
theorem Reads.final (counts : Counts count) {sums : String → UsageKey → Nat}
    (reads : Reads count usage sums) (answers : List Answer) :
    Reads count (EventRuns.final Answer.apply answers usage) fun memberId key =>
      sums memberId key + (answers.map (Answer.amount memberId key)).sum := by
  induction answers generalizing usage sums with
  | nil => exact reads
  | cons answer answers ih =>
      intro memberId key
      have later : _ = count (sums memberId key + answer.amount memberId key + _) :=
        ih (reads.apply counts answer) memberId key
      rw [Nat.add_assoc] at later
      exact later

end Counting

/-! ## The sums of a run -/

section Sums

variable {memberId : String} {answer : Answer} {answers : List Answer}

theorem tokensOf_cons (memberId : String) (answer : Answer) (answers : List Answer) :
    tokensOf memberId (answer :: answers) =
      (if answer.memberId = memberId then answer.tokens else 0) + tokensOf memberId answers := by
  by_cases own : answer.memberId = memberId
  · simp [tokensOf, own]
  · simp [tokensOf, own]

theorem callsOf_cons (memberId : String) (answer : Answer) (answers : List Answer) :
    callsOf memberId (answer :: answers) =
      (if answer.memberId = memberId then 1 else 0) + callsOf memberId answers := by
  by_cases own : answer.memberId = memberId
  · simp [callsOf, own, Nat.add_comm]
  · simp [callsOf, own]

theorem amount_total (memberId : String) (answer : Answer) :
    answer.amount memberId .prompt + answer.amount memberId .completion =
      if answer.memberId = memberId then answer.tokens else 0 := by
  unfold Answer.amount
  by_cases own : answer.memberId = memberId
  · rw [if_pos own, if_pos own, if_pos own]
    rfl
  · rw [if_neg own, if_neg own, if_neg own]

theorem sum_amount_total (memberId : String) (answers : List Answer) :
    (answers.map (Answer.amount memberId .prompt)).sum +
        (answers.map (Answer.amount memberId .completion)).sum = tokensOf memberId answers := by
  induction answers with
  | nil => rfl
  | cons answer answers ih =>
      have total := amount_total memberId answer
      rw [List.map_cons, List.map_cons, List.sum_cons, List.sum_cons, tokensOf_cons]
      omega

theorem sum_amount_calls (memberId : String) (answers : List Answer) :
    (answers.map (Answer.amount memberId .calls)).sum = callsOf memberId answers := by
  induction answers with
  | nil => rfl
  | cons answer answers ih =>
      rw [List.map_cons, List.sum_cons, callsOf_cons, ih]
      rfl

/-- Every token counter of a member stays within the member's total. -/
def Within (sums : String → UsageKey → Nat) : Prop :=
  ∀ memberId key, key ≠ .calls →
    sums memberId key ≤ sums memberId .prompt + sums memberId .completion

theorem tokensFor_le (name counted : String) (tokens : Nat) :
    tokensFor name counted tokens ≤ tokens := by
  unfold tokensFor
  split
  · exact Nat.le_refl _
  · exact Nat.zero_le _

theorem ownAmount_le (answer : Answer) {key : UsageKey} (notCalls : key ≠ .calls) :
    answer.ownAmount key ≤ answer.tokens := by
  cases key with
  | prompt => exact Nat.le_add_right _ _
  | completion => exact Nat.le_add_left _ _
  | calls => exact absurd rfl notCalls
  | provider name => exact tokensFor_le ..
  | model name => exact tokensFor_le ..
  | ruleSet name => exact tokensFor_le ..

theorem Within.apply {sums : String → UsageKey → Nat} (within : Within sums) (answer : Answer) :
    Within fun memberId key => sums memberId key + answer.amount memberId key := by
  intro memberId key notCalls
  have before := within memberId key notCalls
  have total := amount_total memberId answer
  have own : answer.amount memberId key ≤
      if answer.memberId = memberId then answer.tokens else 0 := by
    unfold Answer.amount
    split
    · exact ownAmount_le answer notCalls
    · exact Nat.le_refl _
  simp only
  omega

end Sums

/-! ## One answer -/

section Step

variable {usage : UsageService Word} {sums : String → UsageKey → Nat}

/-- The total and the calls of every member fit a word. -/
def Fits (sums : String → UsageKey → Nat) : Prop :=
  ∀ memberId, sums memberId .prompt + sums memberId .completion < 2 ^ 64 ∧
    sums memberId .calls < 2 ^ 64

/-- Nothing has overflowed when the totals and the calls fit. -/
theorem exact_iff_fits (reads : Reads Word.ofNat usage sums) (within : Within sums) :
    Exact usage ↔ Fits sums := by
  constructor
  · intro exact memberId
    have total := exact.totals memberId
    have calls := exact.counters memberId .calls
    rw [reads.used counts_word] at total
    rw [reads memberId .calls] at calls
    exact ⟨Word.overflowed_ofNat.mp total, Word.overflowed_ofNat.mp calls⟩
  · intro fits
    refine ⟨fun memberId key => ?_, fun memberId => ?_⟩
    · rw [reads memberId key, Word.overflowed_ofNat]
      by_cases isCalls : key = .calls
      · rw [isCalls]
        exact (fits memberId).2
      · exact Nat.lt_of_le_of_lt (within memberId key isCalls) (fits memberId).1
    · rw [reads.used counts_word, Word.overflowed_ofNat]
      exact (fits memberId).1

/-- A larger total is refused where a smaller one is. -/
theorem check_error_mono {quota : QuotaService} {memberId : String} {less more : Word}
    (le : less.value ≤ more.value) {exceeded : QuotaExceeded}
    (refused : quota.check memberId less = .error exceeded) :
    quota.check memberId more = .error exceeded := by
  unfold QuotaService.check at refused ⊢
  cases limited : quota.lookup memberId with
  | none =>
      rw [limited] at refused
      cases refused
  | some limit =>
      simp only [limited] at refused ⊢
      by_cases reached : (decide (0 < limit) && Counter.atLeast less limit) = true
      · obtain ⟨positive, atLeast⟩ := (Bool.and_eq_true _ _).mp reached
        have still : Counter.atLeast more limit = true :=
          decide_eq_true (UInt64.le_trans (of_decide_eq_true atLeast) le)
        rw [if_pos reached] at refused
        rw [positive, still, Bool.and_self, if_pos rfl]
        exact refused
      · rw [if_neg reached] at refused
        cases refused

/-- An answer that leaves the totals within a word is metered with its true numbers. -/
theorem monotone_of_fits (reads : Reads Word.ofNat usage sums) {answer : Answer}
    (fits : Fits fun memberId key => sums memberId key + answer.amount memberId key) :
    Monotone answer usage := by
  have grows : ∀ memberId,
      (usage.used memberId).value ≤ ((answer.apply usage).used memberId).value := by
    intro memberId
    have room := (fits memberId).1
    rw [reads.used counts_word, (reads.apply counts_word answer).used counts_word]
    exact Word.value_le_value (Nat.add_le_add (Nat.le_add_right _ _) (Nat.le_add_right _ _)) room
  refine
    { streamed := fun _ => ?_
      grows := grows
      refused := fun quota memberId _ refused => check_error_mono (grows memberId) refused }
  have room := (fits answer.memberId).1
  have total := amount_total answer.memberId answer
  rw [if_pos rfl, Answer.tokens] at total
  simp only at room
  rw [shownTotals_openaiChunks, List.map_singleton]
  show [(answer.promptTokens + answer.completionTokens).toNat] = _
  rw [UInt64.toNat_add, Nat.mod_eq_of_lt (by omega)]
  rfl

end Step

/-! ## Every run -/

/-- The answers leave every sum within a word. -/
def Room (sums : String → UsageKey → Nat) (answers : List Answer) : Prop :=
  ∀ memberId,
    sums memberId .prompt + sums memberId .completion + tokensOf memberId answers < 2 ^ 64 ∧
      sums memberId .calls + callsOf memberId answers < 2 ^ 64

theorem Room.fits {sums : String → UsageKey → Nat} {answers : List Answer}
    (room : Room sums answers) : Fits sums := fun memberId =>
  ⟨Nat.lt_of_le_of_lt (Nat.le_add_right _ _) (room memberId).1,
    Nat.lt_of_le_of_lt (Nat.le_add_right _ _) (room memberId).2⟩

theorem Room.next {sums : String → UsageKey → Nat} {answer : Answer} {answers : List Answer}
    (room : Room sums (answer :: answers)) :
    Room (fun memberId key => sums memberId key + answer.amount memberId key) answers := by
  intro memberId
  have here := room memberId
  have total := amount_total memberId answer
  have calls : answer.amount memberId .calls = if answer.memberId = memberId then 1 else 0 := rfl
  rw [tokensOf_cons, callsOf_cons] at here
  dsimp only
  omega

/-- The run goes on within a word as long as the sums of what it adds do. -/
theorem safe_of_room {usage : UsageService Word} {sums : String → UsageKey → Nat}
    (reads : Reads Word.ofNat usage sums) (within : Within sums) (answers : List Answer)
    (room : Room sums answers) :
    EventRuns.Throughout Answer.apply Exact answers usage ∧
      EventRuns.Fitting Answer.apply Monotone answers usage := by
  have exact : Exact usage := (exact_iff_fits reads within).mpr room.fits
  induction answers generalizing usage sums with
  | nil => exact ⟨exact, trivial⟩
  | cons answer answers ih =>
      have next := reads.apply counts_word answer
      have nextWithin := within.apply answer
      have fits := room.next.fits
      obtain ⟨throughout, fitting⟩ := ih next nextWithin room.next
        ((exact_iff_fits next nextWithin).mpr fits)
      exact ⟨⟨exact, throughout⟩, monotone_of_fits reads fits, fitting⟩

/-- The words of a run carry the values of the program's counters. -/
theorem value_used_final (answers : List Answer) (memberId : String) :
    ((EventRuns.final Answer.apply answers (∅ : UsageService Word)).used memberId).value =
      (EventRuns.final Answer.apply answers (∅ : UsageService UInt64)).used memberId := by
  rw [((reads_empty counts_word).final counts_word answers).used counts_word,
    ((reads_empty counts_uint64).final counts_uint64 answers).used counts_uint64]
  rfl

/--
From an empty table no sum of a run overflows, every stream shows its true total, no total
decreases and no refusal is lifted, exactly when the tokens and the calls of every member sum
up to less than `2 ^ 64`.
-/
theorem usage_safe_iff (answers : List Answer) :
    EventRuns.Throughout Answer.apply Exact answers ∅ ∧
        EventRuns.Fitting Answer.apply Monotone answers ∅ ↔
      ∀ memberId, tokensOf memberId answers < 2 ^ 64 ∧ callsOf memberId answers < 2 ^ 64 := by
  have empty := reads_empty counts_word
  have nothing : Within fun _ _ => 0 := fun _ _ _ => Nat.le_refl _
  constructor
  · rintro ⟨throughout, -⟩ memberId
    have reads := empty.final counts_word answers
    have total := throughout.last.totals memberId
    have calls := throughout.last.counters memberId .calls
    rw [reads.used counts_word, Word.overflowed_ofNat] at total
    rw [reads memberId .calls, Word.overflowed_ofNat] at calls
    simp only [Nat.zero_add, sum_amount_total, sum_amount_calls] at total calls
    exact ⟨total, calls⟩
  · intro room
    refine safe_of_room empty nothing answers fun memberId => ?_
    simpa only [Nat.zero_add] using room memberId

/-- An answer for `pc-1` that reports the given prompt tokens. -/
def reported (promptTokens : UInt64) : Answer where
  session := ⟨"token-1", "pc-1", "pc-1", "pc-1", 4600, 1000⟩
  providerLabel := "deepseek"
  candidate := "deepseek-chat"
  ruleSet := ""
  resp := .obj [("usage", .obj [("prompt_tokens", .num (.posInt promptTokens))])]
  streams := false

/-- A member over the limit is let in again by an answer that fills the word. -/
theorem not_usage_safe_wrapped :
    QuotaService.check "pc-1"
        (UsageService.used "pc-1" ((reported 60).apply (∅ : UsageService Word)))
        (QuotaService.set "pc-1" 50 ∅) = .error ⟨50⟩ ∧
      QuotaService.check "pc-1"
          (UsageService.used "pc-1" ((reported 18446744073709551556).apply
            ((reported 60).apply (∅ : UsageService Word))))
          (QuotaService.set "pc-1" 50 ∅) = .ok () ∧
        ¬ (EventRuns.Throughout Answer.apply Exact
              [reported 60, reported 18446744073709551556] ∅ ∧
            EventRuns.Fitting Answer.apply Monotone
              [reported 60, reported 18446744073709551556] ∅) := by
  have refusedFirst : QuotaService.check "pc-1"
      (UsageService.used "pc-1" ((reported 60).apply (∅ : UsageService Word)))
      (QuotaService.set "pc-1" 50 ∅) = .error ⟨50⟩ := by decide
  have readmitted : QuotaService.check "pc-1"
      (UsageService.used "pc-1" ((reported 18446744073709551556).apply
        ((reported 60).apply (∅ : UsageService Word))))
      (QuotaService.set "pc-1" 50 ∅) = .ok () := by decide
  refine ⟨refusedFirst, readmitted, ?_⟩
  rintro ⟨-, -, second, -⟩
  have still := second.refused _ _ _ refusedFirst
  rw [readmitted] at still
  cases still

end AiPowerGateway.Share
