import AiPowerGateway.Punch.Socket

/-!
# Who ends a punch

The loop of `punch` looks whether a datagram is a frame of the peer, and only echoes it if
so; but any datagram ends the loop, and its source is the peer that the call returns.
-/

namespace AiPowerGateway.Punch.PunchCall

variable {call : PunchCall} {state : PunchState} {turns : List PunchTurn}

/-- A tick before the deadline. -/
def Ticks (call : PunchCall) (turn : PunchTurn) : Prop :=
  turn.now < call.deadline ∧ ∃ tag sends, turn.wake = .tick tag sends

/-- A datagram that is read before the deadline. -/
def Receives (call : PunchCall) (turn : PunchTurn) (payload : Bytes) (source : SocketAddr) : Prop :=
  turn.now < call.deadline ∧ turn.wake = .received payload source

/-- The loop goes on behind a tick, and only there. -/
theorem turn_eq_none_iff (state : PunchState) (turn : PunchTurn) :
    (call.turn state turn).2 = none ↔ call.Ticks turn := by
  obtain ⟨now, wake⟩ := turn
  rw [PunchCall.turn, Ticks]
  split
  · next late => simp [Nat.not_lt.mpr late]
  · next inTime =>
      rw [Nat.not_le] at inTime
      cases wake with
      | tick tag sends => simpa using inTime
      | _ => simp

/-- A datagram ends the loop. -/
theorem turn_eq_ok_iff {turn : PunchTurn} {source : SocketAddr} :
    (call.turn state turn).2 = some (.ok source) ↔
      ∃ payload, call.Receives turn payload source := by
  obtain ⟨now, wake⟩ := turn
  rw [PunchCall.turn]
  simp only [Receives]
  split
  · next late => simp [Nat.not_lt.mpr late]
  · next inTime =>
      rw [Nat.not_le] at inTime
      cases wake with
      | received payload other => simp [inTime]
      | _ => simp

theorem Ticks.not_receives {turn : PunchTurn} (ticks : call.Ticks turn) {payload : Bytes}
    {source : SocketAddr} : ¬ call.Receives turn payload source := by
  obtain ⟨-, tag, sends, wake⟩ := ticks
  rintro ⟨-, other⟩
  rw [wake] at other
  cases other

theorem run_cons_of_none {first : PunchTurn} (waits : (call.turn state first).2 = none) :
    call.run state (first :: turns) = call.run (call.turn state first).1 turns := by
  rw [run]
  generalize call.turn state first = result at waits ⊢
  obtain ⟨next, result⟩ := result
  cases waits
  rfl

theorem run_cons_of_some {first : PunchTurn} {result : Except PunchError SocketAddr}
    (ends : (call.turn state first).2 = some result) :
    (call.run state (first :: turns)).2 = some result := by
  rw [run]
  generalize call.turn state first = ended at ends ⊢
  obtain ⟨next, ended⟩ := ended
  cases ends
  rfl

/-- The call waits as long as it is only woken by ticks. -/
theorem run_eq_none_iff : (call.run state turns).2 = none ↔ ∀ turn ∈ turns, call.Ticks turn := by
  induction turns generalizing state with
  | nil => simp [run]
  | cons first rest ih =>
      rw [List.forall_mem_cons, ← turn_eq_none_iff state first]
      cases ended : (call.turn state first).2 with
      | none => rw [run_cons_of_none ended, ih, and_iff_right rfl]
      | some result => simp [run_cons_of_some ended]

/-- The call returns the source of the first datagram. -/
theorem run_eq_ok_iff {source : SocketAddr} :
    (call.run state turns).2 = some (.ok source) ↔
      ∃ before turn after payload, turns = before ++ turn :: after ∧
        (∀ earlier ∈ before, call.Ticks earlier) ∧ call.Receives turn payload source := by
  induction turns generalizing state with
  | nil => simp [run]
  | cons first rest ih =>
      cases ended : (call.turn state first).2 with
      | none =>
          have ticks := (turn_eq_none_iff state first).mp ended
          rw [run_cons_of_none ended, ih]
          constructor
          · rintro ⟨before, turn, after, payload, rfl, earlier, receives⟩
            exact ⟨first :: before, turn, after, payload, rfl,
              List.forall_mem_cons.mpr ⟨ticks, earlier⟩, receives⟩
          · rintro ⟨before, turn, after, payload, split, earlier, receives⟩
            cases before with
            | nil =>
                cases split
                exact absurd receives ticks.not_receives
            | cons other before =>
                cases split
                exact ⟨before, turn, after, payload, rfl, (List.forall_mem_cons.mp earlier).2,
                  receives⟩
      | some result =>
          rw [run_cons_of_some ended, ← ended, turn_eq_ok_iff]
          constructor
          · rintro ⟨payload, receives⟩
            exact ⟨[], first, rest, payload, rfl, nofun, receives⟩
          · rintro ⟨before, turn, after, payload, split, earlier, receives⟩
            cases before with
            | nil =>
                cases split
                exact ⟨payload, receives⟩
            | cons other before =>
                cases split
                have waits := (turn_eq_none_iff state first).mpr (earlier first List.mem_cons_self)
                rw [ended] at waits
                cases waits

/-- The call returns the source of a frame that it received, and another datagram leaves
it waiting. -/
structure Authentic (call : PunchCall) (state : PunchState) (turns : List PunchTurn) : Prop where
  frame {source : SocketAddr} : (call.run state turns).2 = some (.ok source) →
    ∃ turn ∈ turns, ∃ payload, call.Receives turn payload source ∧ IsFrame payload
  waits {before after : List PunchTurn} {turn : PunchTurn} {payload : Bytes}
    {source : SocketAddr} : turns = before ++ turn :: after →
      (call.run state before).2 = none → call.Receives turn payload source →
        ¬ IsFrame payload → (call.run state (before ++ [turn])).2 = none

/-- The first datagram, if one comes before the deadline and before reading fails, is a
frame. -/
def FirstIsFrame (call : PunchCall) (turns : List PunchTurn) : Prop :=
  ∀ before turn after payload source, turns = before ++ turn :: after →
    (∀ earlier ∈ before, call.Ticks earlier) → call.Receives turn payload source →
      IsFrame payload

/--
A call is authentic if and only if the first datagram that it receives is a frame.
-/
theorem authentic_iff (call : PunchCall) (state : PunchState) (turns : List PunchTurn) :
    call.Authentic state turns ↔ call.FirstIsFrame turns := by
  constructor
  · intro authentic before turn after payload source split ticks receives
    by_contra other
    have waiting := authentic.waits split (run_eq_none_iff.mpr ticks) receives other
    exact (run_eq_none_iff.mp waiting turn (by simp)).not_receives receives
  · intro first
    refine ⟨fun returns => ?_, fun split waiting receives other => ?_⟩
    · obtain ⟨before, turn, after, payload, split, ticks, receives⟩ := run_eq_ok_iff.mp returns
      have frame := first before turn after payload _ split ticks receives
      exact ⟨turn, by simp [split], payload, receives, frame⟩
    · exact absurd (first _ _ _ _ _ split (run_eq_none_iff.mp waiting) receives) other

/-- A call that waits a second and a late reply of the echo server. -/
def lateReplyCall : PunchCall where
  candidates := [{ ip := "198.51.100.4", port := 40001, kind := .mapped }]
  options := {}
  start := 0
  toSocketAddr candidate := ⟨candidate.ip, candidate.port⟩
  describe _ := ""

def echoServer : SocketAddr := ⟨"203.0.113.7", 3478⟩

/-- `{"type":"mapped"}` -/
def lateReply : Bytes :=
  [123, 34, 116, 121, 112, 101, 34, 58, 34, 109, 97, 112, 112, 101, 100, 34, 125]

/-- The echo server, whose reply comes late, is taken for the peer. -/
theorem not_authentic_late_reply :
    (lateReplyCall.run {} [⟨0, .received lateReply echoServer⟩]).2 = some (.ok echoServer) ∧
      ¬ lateReplyCall.Authentic {} [⟨0, .received lateReply echoServer⟩] := by
  refine ⟨rfl, fun authentic => ?_⟩
  have waits : (lateReplyCall.run {} ([] ++ [⟨0, .received lateReply echoServer⟩])).2 = none :=
    authentic.waits rfl rfl ⟨by decide, rfl⟩ (by decide)
  cases waits

end AiPowerGateway.Punch.PunchCall
