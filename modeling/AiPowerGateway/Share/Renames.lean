import AiPowerGateway.Share.Control
import AiPowerGateway.Share.Gates
import AiPowerGateway.Systems.EventRuns
import Mathlib.Logic.Function.Basic

/-!
# How long a new name lasts

The name of a member lives in the registry, and once more in the session of its
token.  A rename changes the first only, and every model request writes the second
over it.
-/

namespace AiPowerGateway.Share

open Systems EventRuns

variable {τ : Type}

namespace MemberRegistry

@[simp] theorem shownName?_upsert_self (machineName displayName ip : String) (now : UInt64)
    (registry : MemberRegistry) :
    (registry.upsert machineName displayName ip now).shownName? machineName =
      some (if displayName = "" then (registry.shownName? machineName).getD machineName
        else displayName) := by
  unfold upsert shownName?
  rw [HashMap.lookup_upsert_self]
  cases registry.members.lookup machineName <;> by_cases named : displayName = "" <;>
    simp [refresh, named]

theorem shownName?_upsert_ne {machineName other : String} (differ : other ≠ machineName)
    (displayName ip : String) (now : UInt64) (registry : MemberRegistry) :
    (registry.upsert machineName displayName ip now).shownName? other =
      registry.shownName? other := by
  unfold upsert shownName?
  rw [HashMap.lookup_upsert_ne differ]

theorem rename_fst (machineName newDisplay : String) (registry : MemberRegistry) :
    (registry.rename machineName newDisplay).1 = (registry.shownName? machineName).isSome := by
  unfold rename shownName?
  cases registry.members.lookup machineName <;> rfl

theorem shownName?_rename_self (machineName newDisplay : String) (registry : MemberRegistry) :
    (registry.rename machineName newDisplay).2.shownName? machineName =
      (registry.shownName? machineName).map fun _ => newDisplay := by
  unfold rename shownName?
  cases found : registry.members.lookup machineName with
  | none => simp [found]
  | some member => simp [AList.lookup_insert]

theorem shownName?_rename_ne {machineName other : String} (differ : other ≠ machineName)
    (newDisplay : String) (registry : MemberRegistry) :
    (registry.rename machineName newDisplay).2.shownName? other = registry.shownName? other := by
  unfold rename shownName?
  cases found : registry.members.lookup machineName with
  | none => rfl
  | some member => simp [AList.lookup_insert_ne differ]

end MemberRegistry

/-! ## Model requests -/

/-- The registry after a model request: a signed-in member was seen. -/
def ApiState.membersSeen (now : UInt64) (headers : HeaderMap) (state : ApiState τ) :
    MemberRegistry :=
  if state.sharing then
    match state.signedIn now headers with
    | none => state.members
    | some session => (state.seen now session).members
  else state.members

/-- A model request carries the name that its machine is shown with, if any. -/
def ApiState.NamesAgree (now : UInt64) (headers : HeaderMap) (state : ApiState τ) : Prop :=
  ∀ session, state.sharing = true → state.signedIn now headers = some session →
    session.displayName = "" ∨
      ∀ name, state.members.shownName? session.machineName = some name →
        name = session.displayName

/-- The registered machines keep their names. -/
def MemberRegistry.KeepsNames (before after : MemberRegistry) : Prop :=
  ∀ machine name, before.shownName? machine = some name → after.shownName? machine = some name

theorem keepsNames_membersSeen_iff (now : UInt64) (headers : HeaderMap) (state : ApiState τ) :
    state.members.KeepsNames (state.membersSeen now headers) ↔ state.NamesAgree now headers := by
  unfold ApiState.membersSeen ApiState.NamesAgree
  split
  · next sharing =>
      cases signed : state.signedIn now headers with
      | none => simp [MemberRegistry.KeepsNames]
      | some session =>
          constructor
          · intro keeps other _ same
            cases same
            by_cases named : session.displayName = ""
            · exact Or.inl named
            · refine Or.inr fun name shown => ?_
              have kept := keeps session.machineName name shown
              simp only [ApiState.seen, MemberRegistry.shownName?_upsert_self, named, if_false,
                Option.some.injEq] at kept
              exact kept.symm
          · intro agree machine name shown
            by_cases own : machine = session.machineName
            · subst own
              refine (state.members.shownName?_upsert_self _ session.displayName "" now).trans ?_
              rw [shown, Option.getD_some]
              rcases agree session sharing rfl with unnamed | same
              · rw [if_pos unnamed]
              · rw [same name shown, ite_self]
            · exact (MemberRegistry.shownName?_upsert_ne own _ _ _ _).trans shown
  · next paused => simp [paused, MemberRegistry.KeepsNames]

section Serve

variable [Counter τ]

theorem members_chatGate (host : Host) (now : UInt64) (state : ApiState τ) (headers : HeaderMap)
    (body : Json) :
    (chatGate host now state headers body).2.members = state.membersSeen now headers := by
  unfold chatGate ApiState.membersSeen ApiState.signedIn
  by_cases sharing : state.sharing = true
  · cases presented : bearerToken headers with
    | none => simp [sharing]
    | some token =>
        cases verified : state.auth.verify now token with
        | none => simp [sharing, verified]
        | some session =>
            simp only [sharing, not_true_eq_false, if_false, if_true, Option.bind_some, verified]
            split
            · rfl
            · split <;> rfl
  · simp [sharing]

theorem members_messagesGate (host : Host) (now : UInt64) (state : ApiState τ)
    (headers : HeaderMap) (raw : List UInt8) :
    (messagesGate host now state headers raw).2.members = state.membersSeen now headers := by
  cases parsed : host.serde.fromSlice raw with
  | some body =>
      rw [messagesGate_parsed now state headers parsed, members_chatGate]
  | none =>
      unfold messagesGate ApiState.membersSeen ApiState.signedIn
      by_cases sharing : state.sharing = true
      · cases presented : bearerToken headers with
        | none => simp [sharing]
        | some token =>
            cases verified : state.auth.verify now token with
            | none => simp [sharing, verified]
            | some session =>
                simp only [sharing, not_true_eq_false, if_false, if_true, Option.bind_some,
                  verified, parsed]
                split <;> rfl
      · simp [sharing]

theorem members_chatServe (host : Host) (net : Nat → HttpOutcome) (state : ApiState τ)
    (session : Session) (body : Json) :
    (chatServe host net state session body).state.members = state.members := by
  unfold chatServe chatFinish
  simp only
  split <;> rfl

theorem members_messagesServe (host : Host) (outcome : HttpOutcome) (state : ApiState τ)
    (session : Session) (body : Json) :
    (messagesServe host outcome state session body).state.members = state.members := by
  unfold messagesServe
  simp only
  split
  · rfl
  · split <;> rfl

theorem members_chatCompletions (host : Host) (net : Nat → HttpOutcome) (now : UInt64)
    (state : ApiState τ) (headers : HeaderMap) (body : Json) :
    (chatCompletions host net now state headers body).state.members =
      state.membersSeen now headers := by
  rw [← members_chatGate host now state headers body]
  unfold chatCompletions
  split
  · next refused =>
      rw [refused]
      rfl
  · next admitted => rw [admitted, members_chatServe]

theorem members_messages (host : Host) (outcome : HttpOutcome) (now : UInt64)
    (state : ApiState τ) (headers : HeaderMap) (raw : List UInt8) :
    (messages host outcome now state headers raw).state.members =
      state.membersSeen now headers := by
  rw [← members_messagesGate host now state headers raw]
  unfold messages
  split
  · next refused =>
      rw [refused]
      rfl
  · next admitted => rw [admitted, members_messagesServe]

end Serve

/-! ## Joining and renaming -/

/-- `auth_token` gives the machine the name it asks for, or changes no name at all. -/
theorem members_authToken (host : Host) (now : UInt64) (genToken : String)
    (dropped issued : WriteOutcome) (ip : String) (body : Json) (state : ApiState τ) :
    (authToken host now genToken dropped issued ip body state).2.members = state.members ∨
      (authToken host now genToken dropped issued ip body state).2.members =
        state.members.upsert (body.textOr "machineName" "") (body.textOr "displayName" "") ip
          now := by
  unfold authToken
  split
  · exact Or.inl rfl
  · simp only
    split
    · exact Or.inl rfl
    · split
      · exact Or.inr rfl
      · exact Or.inl rfl

theorem authRename_cases (host : Host) (now : UInt64) (headers : HeaderMap) (body : Json)
    (state : ApiState τ) :
    (∃ session, state.signedIn now headers = some session ∧
        body.textOr "displayName" "" ≠ "" ∧
        (authRename host now headers body state).1.status = 200 ∧
        (authRename host now headers body state).2.members =
          (state.members.rename session.machineName (body.textOr "displayName" "")).2) ∨
      ((∀ session, state.signedIn now headers = some session →
          body.textOr "displayName" "" = "") ∧
        (authRename host now headers body state).1.status ≠ 200 ∧
        (authRename host now headers body state).2.members = state.members) := by
  unfold authRename ApiState.signedIn
  cases bearerToken headers with
  | none => exact Or.inr ⟨(fun _ signed => by cases signed), (by decide : 401 ≠ 200), rfl⟩
  | some token =>
      simp only [Option.bind_some]
      cases state.auth.verify now token with
      | none => exact Or.inr ⟨(fun _ signed => by cases signed), (by decide : 401 ≠ 200), rfl⟩
      | some session =>
          simp only
          split
          · next unnamed => exact Or.inr ⟨fun _ _ => unnamed, (by decide : 400 ≠ 200), rfl⟩
          · next named => exact Or.inl ⟨session, rfl, named, rfl, rfl⟩

theorem controlRename_cases (host : Host) (body : Json) (state : ApiState τ) :
    ((state.members.shownName? (body.textOr "memberId" "")).isSome ∧
        (controlRename host body state).1.status = 200 ∧
        (controlRename host body state).2.members =
          (state.members.rename (body.textOr "memberId" "")
            (body.textOr "displayName" "")).2) ∨
      ((controlRename host body state).1.status ≠ 200 ∧
        (controlRename host body state).2.members = state.members) := by
  unfold controlRename
  simp only
  split
  · exact Or.inr ⟨(by decide : 400 ≠ 200), rfl⟩
  · rw [← state.members.rename_fst _ (body.textOr "displayName" "")]
    split
    · exact Or.inr ⟨(by decide : 400 ≠ 200), rfl⟩
    · next members renamed =>
        rw [renamed]
        exact Or.inl ⟨rfl, rfl, rfl⟩

/-! ## Promised names -/

/-- Every machine is shown with the name it was promised. -/
def MemberRegistry.Honours (promised : String → Option String) (registry : MemberRegistry) :
    Prop :=
  ∀ machine name, promised machine = some name → registry.shownName? machine = some name

theorem MemberRegistry.Honours.rename {promised : String → Option String}
    {registry : MemberRegistry} (honours : registry.Honours promised) {machine : String}
    (registered : (registry.shownName? machine).isSome) (newName : String) :
    (registry.rename machine newName).2.Honours
      (Function.update promised machine (some newName)) := by
  intro other name holds
  by_cases own : other = machine
  · subst own
    rw [Function.update_self] at holds
    obtain ⟨shown, found⟩ := Option.isSome_iff_exists.mp registered
    rw [shownName?_rename_self, found, Option.map_some, holds]
  · rw [Function.update_of_ne own] at holds
    rw [shownName?_rename_ne own]
    exact honours other name holds

/-- An unregistered machine cannot be shown with any name. -/
theorem MemberRegistry.not_honours_rename {promised : String → Option String}
    {registry : MemberRegistry} {machine : String}
    (unregistered : registry.shownName? machine = none) (newName : String) :
    ¬ (registry.rename machine newName).2.Honours
      (Function.update promised machine (some newName)) := by
  intro honours
  have shown := honours machine newName (Function.update_self ..)
  rw [shownName?_rename_self, unregistered] at shown
  cases shown

/-! ## Runs -/

/-- A request that reads or writes names. -/
inductive NameEvent where
  | authToken (now : UInt64) (genToken : String) (dropped issued : WriteOutcome) (ip : String)
      (body : Json)
  | authRename (now : UInt64) (headers : HeaderMap) (body : Json)
  | controlRename (body : Json)
  | chatCompletions (net : Nat → HttpOutcome) (now : UInt64) (headers : HeaderMap) (body : Json)
  | messages (outcome : HttpOutcome) (now : UInt64) (headers : HeaderMap) (raw : List UInt8)

/-- The service, and the name that the last rename of a machine gave it. -/
structure NameBook (τ : Type) where
  api : ApiState τ
  promised : String → Option String

section Runs

variable [Counter τ] (host : Host)

/-- The service after the request. -/
def NameEvent.serve : NameEvent → ApiState τ → ApiState τ
  | .authToken now genToken dropped issued ip body, api =>
      (Share.authToken host now genToken dropped issued ip body api).2
  | .authRename now headers body, api => (Share.authRename host now headers body api).2
  | .controlRename body, api => (Share.controlRename host body api).2
  | .chatCompletions net now headers body, api =>
      (Share.chatCompletions host net now api headers body).state
  | .messages outcome now headers raw, api =>
      (Share.messages host outcome now api headers raw).state

/-- The machine that the request renames, and its new name; the answer is a success. -/
def NameEvent.renames (event : NameEvent) (api : ApiState τ) : Option (String × String) :=
  match event with
  | .authRename now headers body =>
      if (Share.authRename host now headers body api).1.status = 200 then
        (api.signedIn now headers).map fun session =>
          (session.machineName, body.textOr "displayName" "")
      else none
  | .controlRename body =>
      if (Share.controlRename host body api).1.status = 200 then
        some (body.textOr "memberId" "", body.textOr "displayName" "")
      else none
  | _ => none

/-- The machine that asks for a token under a name of its own choice. -/
def NameEvent.choosesName : NameEvent → Option String
  | .authToken _ _ _ _ _ body =>
      if body.textOr "displayName" "" = "" then none else some (body.textOr "machineName" "")
  | _ => none

namespace NameBook

def step (event : NameEvent) (book : NameBook τ) : NameBook τ where
  api := event.serve host book.api
  promised :=
    match event.renames host book.api with
    | some (machine, name) => Function.update book.promised machine (some name)
    | none =>
        match event.choosesName with
        | some machine => Function.update book.promised machine none
        | none => book.promised

/-- A service of which nothing was asked so far. -/
def begin (api : ApiState τ) : NameBook τ := ⟨api, fun _ => none⟩

def Kept (book : NameBook τ) : Prop := book.api.members.Honours book.promised

end NameBook

/-- A model request changes no name. -/
def NameEvent.Unchanging : NameEvent → NameBook τ → Prop
  | .chatCompletions net now headers body, book =>
      book.api.members.KeepsNames
        ((NameEvent.chatCompletions net now headers body).serve host book.api).members
  | .messages outcome now headers raw, book =>
      book.api.members.KeepsNames
        ((NameEvent.messages outcome now headers raw).serve host book.api).members
  | _, _ => True

/--
What lets names last: a model request comes from a session with the name that its
machine is shown with, and who renames itself is registered.
-/
def NameEvent.Lasting : NameEvent → NameBook τ → Prop
  | .authRename now headers body, book =>
      ∀ session, book.api.signedIn now headers = some session →
        body.textOr "displayName" "" ≠ "" →
        (book.api.members.shownName? session.machineName).isSome
  | .chatCompletions _ now headers _, book => book.api.NamesAgree now headers
  | .messages _ now headers _, book => book.api.NamesAgree now headers
  | _, _ => True

variable {host} {book : NameBook τ}

theorem kept_authToken (kept : book.Kept) (now : UInt64) (genToken : String)
    (dropped issued : WriteOutcome) (ip : String) (body : Json) :
    (book.step host (.authToken now genToken dropped issued ip body)).Kept := by
  intro machine name promised
  simp only [NameBook.step, NameEvent.renames, NameEvent.choosesName] at promised
  show (authToken host now genToken dropped issued ip body book.api).2.members.shownName?
    machine = some name
  have other (differ : machine ≠ body.textOr "machineName" "")
      (before : book.promised machine = some name) :
      (authToken host now genToken dropped issued ip body book.api).2.members.shownName?
        machine = some name := by
    rcases members_authToken host now genToken dropped issued ip body book.api with
      same | upserted
    · rw [same]
      exact kept machine name before
    · rw [upserted, MemberRegistry.shownName?_upsert_ne differ]
      exact kept machine name before
  by_cases named : body.textOr "displayName" "" = ""
  · rw [if_pos named] at promised
    by_cases own : machine = body.textOr "machineName" ""
    · subst own
      have shown := kept _ name promised
      rcases members_authToken host now genToken dropped issued ip body book.api with
        same | upserted
      · rw [same]
        exact shown
      · rw [upserted, MemberRegistry.shownName?_upsert_self, if_pos named, shown, Option.getD_some]
    · exact other own promised
  · rw [if_neg named] at promised
    have differ : machine ≠ body.textOr "machineName" "" := by
      rintro rfl
      simp at promised
    exact other differ (by simpa [differ] using promised)

theorem kept_authRename_iff (kept : book.Kept) (now : UInt64) (headers : HeaderMap)
    (body : Json) :
    (book.step host (.authRename now headers body)).Kept ↔
      (NameEvent.authRename now headers body).Lasting book := by
  unfold NameBook.Kept
  simp only [NameBook.step, NameEvent.serve, NameEvent.renames, NameEvent.choosesName,
    NameEvent.Lasting]
  rcases authRename_cases host now headers body book.api with
    ⟨session, signed, named, succeeded, members⟩ | ⟨unnamed, failed, members⟩
  · rw [members, if_pos succeeded, signed, Option.map_some]
    constructor
    · rintro honours _ ⟨⟩ -
      by_contra unregistered
      rw [Option.not_isSome_iff_eq_none] at unregistered
      exact MemberRegistry.not_honours_rename unregistered _ honours
    · intro registered
      exact MemberRegistry.Honours.rename kept (registered session rfl named) _
  · rw [members, if_neg failed]
    apply iff_of_true kept
    intro session signed named
    exact absurd (unnamed session signed) named

theorem kept_controlRename (kept : book.Kept) (body : Json) :
    (book.step host (.controlRename body)).Kept := by
  unfold NameBook.Kept
  simp only [NameBook.step, NameEvent.serve, NameEvent.renames, NameEvent.choosesName]
  rcases controlRename_cases host body book.api with
    ⟨registered, succeeded, members⟩ | ⟨failed, members⟩
  · rw [members, if_pos succeeded]
    exact MemberRegistry.Honours.rename kept registered _
  · rw [members, if_neg failed]
    exact kept

/-- A request that promises nothing keeps the promises if it keeps the names. -/
theorem kept_of_keepsNames (kept : book.Kept) {event : NameEvent}
    (renames : event.renames host book.api = none) (chooses : event.choosesName = none)
    (keeps : book.api.members.KeepsNames (event.serve host book.api).members) :
    (book.step host event).Kept := by
  intro machine name promised
  simp only [NameBook.step, renames, chooses] at promised
  exact keeps machine name (kept machine name promised)

/-- A model request keeps the promises, and every name, if it carries the right one. -/
theorem kept_seen_iff (kept : book.Kept) {event : NameEvent}
    (renames : event.renames host book.api = none) (chooses : event.choosesName = none)
    {now : UInt64} {headers : HeaderMap}
    (seen : (event.serve host book.api).members = book.api.membersSeen now headers) :
    (book.step host event).Kept ∧
        book.api.members.KeepsNames (event.serve host book.api).members ↔
      book.api.NamesAgree now headers := by
  rw [and_iff_right_of_imp (kept_of_keepsNames kept renames chooses), seen]
  exact keepsNames_membersSeen_iff now headers book.api

theorem kept_step_iff (event : NameEvent) (kept : book.Kept) :
    (book.step host event).Kept ∧ event.Unchanging host book ↔ event.Lasting book := by
  cases event with
  | authToken now genToken dropped issued ip body =>
      exact iff_of_true ⟨kept_authToken kept now genToken dropped issued ip body, trivial⟩ trivial
  | authRename now headers body =>
      rw [← kept_authRename_iff kept now headers body]
      exact and_iff_left trivial
  | controlRename body => exact iff_of_true ⟨kept_controlRename kept body, trivial⟩ trivial
  | chatCompletions net now headers body =>
      exact kept_seen_iff kept rfl rfl (members_chatCompletions host net now book.api headers body)
  | messages outcome now headers raw =>
      exact kept_seen_iff kept rfl rfl (members_messages host outcome now book.api headers raw)

end Runs

theorem kept_begin (api : ApiState τ) : (NameBook.begin api).Kept := by
  intro machine name promised
  cases promised

/-- A new name lasts exactly as long as nobody brings the old one along. -/
theorem renames_durable_iff [Counter τ] (host : Host) (api : ApiState τ)
    (events : List NameEvent) :
    Throughout (NameBook.step host) NameBook.Kept events (.begin api) ∧
        Fitting (NameBook.step host) (NameEvent.Unchanging host) events (.begin api) ↔
      Fitting (NameBook.step host) NameEvent.Lasting events (.begin api) :=
  throughout_and_fitting_iff (fun event _ kept => kept_step_iff event kept)
    (kept_begin api) events

/-- A model request with the token of `smallSession`, for a model that nobody serves. -/
def asksModel : NameEvent :=
  .chatCompletions (fun _ => .sendFailed "offline") 1000 smallHeaders (modelRequest "glm-4")

/-- The machine is seen, renamed by the panel, and seen again. -/
def renamedBetween : List NameEvent :=
  [asksModel, .controlRename (.obj [("memberId", .str "pc-1"), ("displayName", .str "bob")]),
    asksModel]

/-- The second model request brings the old name back. -/
theorem rename_undone :
    ¬ ∀ (host : Host) (api : ApiState UInt64) (events : List NameEvent),
      Throughout (NameBook.step host) NameBook.Kept events (.begin api) ∧
        Fitting (NameBook.step host) (NameEvent.Unchanging host) events (.begin api) := by
  intro durable
  have kept := (durable Host.compact (smallService [] []) renamedBetween).1.last
  exact absurd (kept "pc-1" "bob" (by decide)) (by decide)

end AiPowerGateway.Share
